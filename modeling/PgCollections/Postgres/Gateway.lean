import PgCollections.Config.Postgres
import PgCollections.Gateway
import PgCollections.Postgres.Server

/-!
# The gateway to a server

A `PgGateway` runs statements on a server. The server describes a statement first, so that each
value is sent as the type of its placeholder. Failures of the connection itself are logged and
reported to the handler, if one is registered.
-/

namespace PgCollections

/-! ### Results -/

/-- A cell as JSON. A cell that is null or cannot be read is null. -/
def PgType.cell (bigIntAsNumber : Bool) (type : PgType) (bytes : Option Bytes) : Json :=
  ((bytes.bind (Datum.decode? type)).map (·.toJson bigIntAsNumber)).getD .null

/-- A row as JSON values by column name. -/
def Row.ofCells (bigIntAsNumber : Bool) (columns : List (String × PgType))
    (cells : List (Option Bytes)) : Row :=
  Keyed.ofList ((columns.zip cells).map fun ((name, type), bytes) =>
    (name, type.cell bigIntAsNumber bytes))

namespace Completion

/-- The digits that a command tag ends with after its last blank, as a count of 64 bits. -/
def affected (completion : Completion) : Nat :=
  let tag := completion.tag.toList
  let word := (tag.reverse.takeWhile (· != ' ')).reverse
  let count := match scanInt.run word with
    | some (n, _) => n.toNat
    | none => 0
  if ' ' ∈ tag ∧ count < Nat.pow 2 64 then count else 0

/-- The result of a statement with the given columns. -/
def result (completion : Completion) (bigIntAsNumber : Bool) (columns : List (String × PgType)) :
    QueryResult :=
  if columns.isEmpty then ⟨[], completion.affected⟩
  else ⟨completion.rows.map (Row.ofCells bigIntAsNumber columns), completion.rows.length⟩

end Completion

/-! ### Gateways -/

structure PgGateway (τ : Type) where
  server : Server τ
  /-- The connection's name in logs. -/
  target : String
  bigIntAsNumber : Bool := false
  /-- A handler for failures of the connection is registered. -/
  hasHandler : Bool := false

/-- A server in use, and what was reported to the handler. -/
structure PgSession (τ : Type) where
  server : τ
  reports : List BackendError := []

namespace PgGateway

variable {τ : Type}

/-- A request whose refusal ends the statement. -/
def request {α : Type} (r : Request τ α) : ExceptT PgError (StateM τ) α := fun server =>
  let (answer, server) := r server
  (answer.mapError .driver, server)

/-- Acquires a connection, has the statement described, converts the parameters and executes it. -/
def run (gateway : PgGateway τ) (statement : Statement) :
    ExceptT PgError (StateM τ) QueryResult := do
  request gateway.server.acquire
  let description ← request (gateway.server.describe statement.sql)
  let supplied := statement.params.length
  let required := description.parameters.length
  if supplied ≠ required then throw (.countMismatch supplied required)
  let arguments ← ExceptT.mk (pure (Argument.ofValues description.parameters statement.params))
  let completion ← request (gateway.server.execute statement.sql arguments)
  return completion.result gateway.bigIntAsNumber description.columns

/-- Logs a failure of the connection. -/
def report (gateway : PgGateway τ) (e : BackendError) : Action (PgSession τ) Unit := do
  if e.isAcquireFailure then
    record (.connectionFailed gateway.target e)
    if gateway.hasHandler then
      modify fun world =>
        { world with connection.reports := world.connection.reports ++ [e] }

/-- Lets the server of a session act. -/
def onServer {α : Type} (act : StateM τ α) : Action (PgSession τ) α := fun world =>
  let (a, server) := act world.connection.server
  (a, { world with connection.server := server })

def execute (gateway : PgGateway τ) (statement : Statement) :
    Action (PgSession τ) (Except BackendError QueryResult) := do
  match ← onServer (gateway.run statement).run with
  | .ok result => return .ok result
  | .error e =>
    gateway.report e.toBackend
    return .error e.toBackend

def toGateway (gateway : PgGateway τ) : Gateway (PgSession τ) where
  execute := gateway.execute
  close := onServer gateway.server.close

/-- The pool of a gateway under a gateway that has no name for it. -/
def ofPool (server : Server τ) (bigIntAsNumber : Bool) : PgGateway τ :=
  { server, target := "<pool>", bigIntAsNumber }

/-- Opens the pool. -/
def connect (server : Server τ) (config : PgConfig) :
    Action (PgSession τ) (Except BackendError (PgGateway τ)) := do
  let target := config.target
  match ← onServer (server.connect config).run with
  | .ok _ =>
    record (.connected target)
    return .ok { server, target, bigIntAsNumber := config.bigIntAsNumber }
  | .error e =>
    record (.connectionFailed target (.ofDriver e))
    return .error (.ofDriver e)

end PgGateway

end PgCollections
