import PgCollections.Database
import PgCollections.Postgres.Gateway

/-! # What reaches a server

`Keeps P act` says that an action keeps the property `P` of its state.  `Server.Upholds allowed P`
says that the requests of a server keep `P` as long as the texts sent are allowed; then executing an
allowed statement through the gateway keeps `P` as well (`PgGateway.keeps_execute`).

`Server.recording` is a server that also keeps the texts it is sent.  That all of them are allowed
is such a property (`Server.upholds_recording`). -/

namespace PgCollections

/-- The action keeps a property of the state. -/
def Keeps {σ α : Type} (P : σ → Prop) (act : StateM σ α) : Prop := ∀ s, P s → P (act.run s).2

namespace Keeps

variable {σ α β ε : Type} {P : σ → Prop}

theorem pure (a : α) : Keeps P (pure a : StateM σ α) := fun _ hs => hs

theorem bind {act : StateM σ α} {next : α → StateM σ β} (h : Keeps P act)
    (hnext : ∀ a, Keeps P (next a)) : Keeps P (act >>= next) :=
  fun s hs => hnext _ _ (h s hs)

/-- A failure ends the action. -/
theorem except_bind {act : ExceptT ε (StateM σ) α} {next : α → ExceptT ε (StateM σ) β}
    (h : Keeps P act.run) (hnext : ∀ a, Keeps P (next a).run) : Keeps P (act >>= next).run := by
  rw [ExceptT.run_bind]
  refine h.bind fun result => ?_
  cases result with
  | error e => exact Keeps.pure _
  | ok a => exact hnext a

end Keeps

/-! ### Servers -/

/-- The property is kept as long as only allowed texts are sent. -/
structure Server.Upholds {τ : Type} (server : Server τ) (allowed : String → Prop) (P : τ → Prop) :
    Prop where
  connect : ∀ settings, Keeps P (server.connect settings).run
  acquire : Keeps P server.acquire.run
  describe : ∀ sql, allowed sql → Keeps P (server.describe sql).run
  execute : ∀ sql arguments, allowed sql → Keeps P (server.execute sql arguments).run
  close : Keeps P server.close

namespace Server

variable {τ : Type}

/-- The action on a state that comes with a list of texts. -/
def besideTexts {α : Type} (act : StateM τ α) : StateM (τ × List String) α :=
  fun (state, texts) =>
    let (a, state) := act state
    (a, state, texts)

/-- A server that keeps the texts it is sent, to be described or to be executed. -/
def recording (server : Server τ) : Server (τ × List String) where
  connect settings := besideTexts (server.connect settings)
  acquire := besideTexts server.acquire
  describe sql := fun (state, texts) => besideTexts (server.describe sql) (state, texts ++ [sql])
  execute sql arguments := fun (state, texts) =>
    besideTexts (server.execute sql arguments) (state, texts ++ [sql])
  close := besideTexts server.close

theorem upholds_recording (server : Server τ) (allowed : String → Prop) :
    server.recording.Upholds allowed fun state => ∀ sql ∈ state.2, allowed sql where
  connect _ := fun _ h => h
  acquire := fun _ h => h
  describe _ hsql := fun _ h text ht =>
    (List.mem_append.mp ht).elim (h text) fun ht => List.mem_singleton.mp ht ▸ hsql
  execute _ _ hsql := fun _ h text ht =>
    (List.mem_append.mp ht).elim (h text) fun ht => List.mem_singleton.mp ht ▸ hsql
  close := fun _ h => h

end Server

/-! ### Gateways -/

namespace PgGateway

variable {τ : Type} {server : Server τ} {allowed : String → Prop} {P : τ → Prop}

theorem keeps_onServer {α : Type} {act : StateM τ α} (h : Keeps P act) :
    Keeps (fun world => P world.connection.server) (onServer act) :=
  fun world hworld => h world.connection.server hworld

theorem keeps_request {α : Type} {r : Request τ α} (h : Keeps P r.run) :
    Keeps P (request r).run :=
  fun s hs => h s hs

theorem keeps_run (gateway : PgGateway τ) (h : gateway.server.Upholds allowed P)
    {statement : Statement} (hsql : allowed statement.sql) :
    Keeps P (gateway.run statement).run := by
  refine (keeps_request h.acquire).except_bind fun _ => ?_
  refine (keeps_request (h.describe _ hsql)).except_bind fun description => ?_
  dsimp only
  split
  · exact fun _ hs => hs
  · refine Keeps.except_bind (fun _ hs => hs) fun arguments => ?_
    exact (keeps_request (h.execute _ arguments hsql)).except_bind fun _ => Keeps.pure _

theorem keeps_report (gateway : PgGateway τ) (e : BackendError) :
    Keeps (fun world => P world.connection.server) (gateway.report e) := by
  unfold report
  split
  · refine Keeps.bind (fun _ hs => hs) fun _ => ?_
    split <;> exact fun _ hs => hs
  · exact Keeps.pure _

theorem keeps_execute (gateway : PgGateway τ) (h : gateway.server.Upholds allowed P)
    {statement : Statement} (hsql : allowed statement.sql) :
    Keeps (fun world => P world.connection.server) (gateway.execute statement) := by
  refine (keeps_onServer (gateway.keeps_run h hsql)).bind fun result => ?_
  cases result with
  | ok result => exact Keeps.pure _
  | error e => exact (gateway.keeps_report e.toBackend).bind fun _ => Keeps.pure _

/-- What holds after an attempt to open the pool holds behind it. -/
theorem keeps_connect_bind {β : Type} (h : server.Upholds allowed P) (settings : PgConfig)
    {next : Except BackendError (PgGateway τ) → Action (PgSession τ) β}
    (hok : ∀ gateway, gateway.server = server →
      Keeps (fun world => P world.connection.server) (next (.ok gateway)))
    (herror : ∀ e, Keeps (fun world => P world.connection.server) (next (.error e))) :
    Keeps (fun world => P world.connection.server) (connect server settings >>= next) := by
  rw [connect, bind_assoc]
  refine (keeps_onServer (h.connect settings)).bind fun answer => ?_
  cases answer with
  | ok _ =>
      simp only [bind_assoc, pure_bind]
      exact Keeps.bind (fun _ hs => hs) fun _ => hok _ rfl
  | error e =>
      simp only [bind_assoc, pure_bind]
      exact Keeps.bind (fun _ hs => hs) fun _ => herror _

end PgGateway

/-! ### Databases -/

theorem Database.keeps_report {σ : Type} {P : σ → Prop} (db : Database σ) (purpose : Purpose)
    (statement : Statement) (e : BackendError) :
    Keeps (fun world => P world.connection) (db.report purpose statement e) :=
  fun _ hs => hs

theorem Database.keeps_execute {σ : Type} {P : σ → Prop} (db : Database σ) (purpose : Purpose)
    {statement : Statement}
    (h : Keeps (fun world => P world.connection) (db.gateway.execute statement)) :
    Keeps (fun world => P world.connection) (db.execute purpose statement) := by
  refine h.bind fun result => ?_
  cases result with
  | ok result => exact Keeps.pure _
  | error e =>
      dsimp only
      split
      · exact Keeps.bind (fun _ hs => hs) fun _ => Keeps.pure _
      · exact (db.keeps_report purpose statement e).bind fun _ => Keeps.pure _

end PgCollections
