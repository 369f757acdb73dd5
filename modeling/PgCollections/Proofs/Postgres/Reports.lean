import PgCollections.Proofs.Database.Step
import PgCollections.Proofs.Postgres.Conversion

/-! # Reports of lost connections

A gateway reports a failure to its handler when the connection was lost.  `PgGateway.run_execute`
says all that a call does: it gives what running the statement gives, and the failure is logged and
reported if it is one of a lost connection (`lost?`).  What many calls report follows by induction
(`PgGateway.run_executeAll`).

An error comes from the driver exactly when the server refuses a request on the way of the statement
(`PgGateway.fails_by_driver_iff`).  The main statement is
`PgGateway.reports_each_lost_connection_once`. -/

namespace PgCollections

/-- The failures of a driver in which the connection was lost, or none could be had. -/
inductive DriverError.LosesConnection : DriverError → Prop
  | io (text : String) : LosesConnection (.io text)
  | tls (text : String) : LosesConnection (.tls text)
  | configuration (text : String) : LosesConnection (.configuration text)
  | poolTimedOut : LosesConnection .poolTimedOut
  | poolClosed : LosesConnection .poolClosed
  | workerCrashed : LosesConnection .workerCrashed

theorem DriverError.isConnectionFailure_iff (e : DriverError) :
    e.isConnectionFailure ↔ e.LosesConnection := by
  constructor
  · intro h
    cases e with
    | io | tls | configuration | poolTimedOut | poolClosed | workerCrashed => constructor
    | _ => cases h
  · intro h
    cases h <;> rfl

theorem BackendError.isAcquireFailure_iff (e : BackendError) :
    e.isAcquireFailure ↔ ∃ d, e.cause = some d ∧ d.LosesConnection := by
  simp only [isAcquireFailure, Option.any_eq_true, DriverError.isConnectionFailure_iff]

/-- The server refuses a request on the way of a statement: to give out a connection, to describe
the statement, or to execute it with the converted values. -/
inductive Server.Refuses {τ : Type} (server : Server τ) (statement : Statement) (start : τ) :
    DriverError → Prop
  | acquire {e : DriverError} {refused : τ} (h : server.acquire start = (.error e, refused)) :
      Refuses server statement start e
  | describe {e : DriverError} {acquired refused : τ}
      (hacquire : server.acquire start = (.ok (), acquired))
      (h : server.describe statement.sql acquired = (.error e, refused)) :
      Refuses server statement start e
  | execute {description : Description} {ready : τ} {arguments : List Argument}
      {e : DriverError} {refused : τ}
      (hready : server.Describes statement.sql start description ready)
      (hcount : description.parameters.length = statement.params.length)
      (hvalues : Argument.ofValues description.parameters statement.params = .ok arguments)
      (h : server.execute statement.sql arguments ready = (.error e, refused)) :
      Refuses server statement start e

/-- The failure that a call gives, if it is one of a lost connection. -/
def lost? : Response → Option BackendError
  | .error e => if e.isAcquireFailure then some e else none
  | .ok _ => none

theorem lost?_eq_some_iff {response : Response} {e : BackendError} :
    lost? response = some e ↔
      response = .error e ∧ ∃ d, e.cause = some d ∧ d.LosesConnection := by
  rw [← e.isAcquireFailure_iff]
  cases response with
  | ok result => simp [lost?]
  | error failure =>
      simp only [lost?, Option.ite_none_right_eq_some, Option.some.injEq, Except.error.injEq]
      constructor
      · rintro ⟨hlost, rfl⟩
        exact ⟨rfl, hlost⟩
      · rintro ⟨rfl, hlost⟩
        exact ⟨hlost, rfl⟩

/-- A failure in which the driver has no part loses no connection. -/
theorem lost?_toBackend {e : PgError} (h : e.cause? = none) :
    lost? (.error e.toBackend) = none := by
  refine if_neg ?_
  rw [BackendError.isAcquireFailure, PgError.toBackend, h]
  exact Bool.false_ne_true

namespace PgGateway

variable {τ : Type} (gateway : PgGateway τ)

/-! ### Failures -/

/-- An error comes from the driver if and only if the server refuses a request. -/
theorem fails_by_driver_iff (statement : Statement) (start : τ) (e : BackendError)
    (d : DriverError) :
    (gateway.course statement start).result = .error e ∧ e.cause = some d ↔
      gateway.server.Refuses statement start d ∧ e = .ofDriver d := by
  constructor
  · rintro ⟨hresult, hcause⟩
    cases way gateway.server statement start with
    | refused hrefused =>
        rw [course_of_refused hrefused] at hresult
        obtain rfl := Except.error.inj hresult
        obtain rfl := Option.some.inj hcause
        exact ⟨.acquire hrefused, rfl⟩
    | undescribed hacquire hrefused =>
        rw [course_of_undescribed hacquire hrefused] at hresult
        obtain rfl := Except.error.inj hresult
        obtain rfl := Option.some.inj hcause
        exact ⟨.describe hacquire hrefused, rfl⟩
    | miscounted hready hcount =>
        rw [course_of_miscounted hready hcount] at hresult
        obtain rfl := Except.error.inj hresult
        cases hcause
    | unconverted hready hcount hvalues =>
        rw [course_of_unconverted hready hcount hvalues] at hresult
        obtain rfl := Except.error.inj hresult
        have hnone := Argument.cause?_of_ofValues hvalues
        exact absurd (hnone.symm.trans hcause) nofun
    | @converted description ready hready hcount arguments hvalues =>
        rw [course_of_converted hready hcount hvalues] at hresult
        rcases hexecute : gateway.server.execute statement.sql arguments ready with
          ⟨failure | completion, final⟩
        · rw [hexecute] at hresult
          obtain rfl := Except.error.inj hresult
          obtain rfl := Option.some.inj hcause
          exact ⟨.execute hready hcount hvalues hexecute, rfl⟩
        · rw [hexecute] at hresult
          cases hresult
  · rintro ⟨hrefuses, rfl⟩
    refine ⟨?_, rfl⟩
    cases hrefuses with
    | acquire hrefused => rw [course_of_refused hrefused]
    | describe hacquire hrefused => rw [course_of_undescribed hacquire hrefused]
    | execute hready hcount hvalues hrefused =>
        rw [course_of_converted hready hcount hvalues, hrefused]
        rfl

/-- A statement that is described, but whose values are not accepted, fails before anything is
executed, with an error in which the driver has no part. -/
theorem course_of_not_accepts {statement : Statement} {start ready : τ} {description : Description}
    (hready : gateway.server.Describes statement.sql start description ready)
    (h : ¬ description.Accepts statement.params) :
    ∃ e : PgError, e.cause? = none ∧
      gateway.course statement start = ⟨.error e.toBackend, ready, []⟩ := by
  by_cases hcount : description.parameters.length = statement.params.length
  · cases hvalues : Argument.ofValues description.parameters statement.params with
    | error e =>
        exact ⟨e, Argument.cause?_of_ofValues hvalues, course_of_unconverted hready hcount hvalues⟩
    | ok arguments =>
        exact absurd ⟨hcount, (Argument.exists_ofValues_iff _ _).mp ⟨arguments, hvalues⟩⟩ h
  · exact ⟨_, rfl, course_of_miscounted hready hcount⟩

/-- No connection is lost by values that are not accepted. -/
theorem lost?_of_not_accepts {statement : Statement} {start ready : τ} {description : Description}
    (hready : gateway.server.Describes statement.sql start description ready)
    (h : ¬ description.Accepts statement.params) :
    lost? (gateway.course statement start).result = none := by
  obtain ⟨e, hcause, hcourse⟩ := gateway.course_of_not_accepts hready h
  rw [hcourse]
  exact lost?_toBackend hcause

/-! ### Calls -/

/-- The world after calls that left the server in a state and lost connections with failures. -/
def left (world : World (PgSession τ)) (server : τ) (lost : List BackendError) :
    World (PgSession τ) :=
  ⟨⟨server, world.connection.reports ++ if gateway.hasHandler then lost else []⟩,
    world.log ++ lost.map (.connectionFailed gateway.target)⟩

theorem left_left (world : World (PgSession τ)) (server final : τ) (lost more : List BackendError) :
    gateway.left (gateway.left world server lost) final more =
      gateway.left world final (lost ++ more) := by
  cases hhandler : gateway.hasHandler <;> simp [left, hhandler]

theorem run_report (e : BackendError) (world : World (PgSession τ)) :
    (gateway.report e).run world =
      ((), gateway.left world world.connection.server (lost? (.error e)).toList) := by
  obtain ⟨⟨server, reports⟩, log⟩ := world
  by_cases hfailure : e.isAcquireFailure
  · rw [report, if_pos hfailure, lost?, if_pos hfailure, left]
    cases gateway.hasHandler with
    | true => rfl
    | false =>
        simp only [Bool.false_eq_true, if_false, List.append_nil]
        rfl
  · rw [report, if_neg hfailure, lost?, if_neg hfailure, left]
    simp only [Option.toList_none, ite_self, List.map_nil, List.append_nil]
    rfl

/-- A call gives what running the statement gives.  If the connection was lost, the failure is
logged, and reported to the handler if there is one. -/
theorem run_execute (statement : Statement) (world : World (PgSession τ)) :
    (gateway.execute statement).run world =
      let course := gateway.course statement world.connection.server
      (course.result, gateway.left world course.final (lost? course.result).toList) := by
  obtain ⟨hresult, hfinal⟩ := gateway.course_unwatched statement world.connection.server
  dsimp only
  rw [hresult, hfinal]
  have hserver : (onServer (gateway.run statement).run).run world =
      (((gateway.run statement).run world.connection.server).1,
        { world with connection.server :=
          ((gateway.run statement).run world.connection.server).2 }) := rfl
  rw [execute, Action.run_seq _ hserver]
  rcases (gateway.run statement).run world.connection.server with ⟨failure | result, server⟩
  · dsimp only [Except.mapError]
    rw [Action.run_seq _ (gateway.run_report failure.toBackend _)]
    rfl
  · simp only [left, Except.mapError, lost?, Option.toList_none, ite_self, List.map_nil,
      List.append_nil]
    rfl

/-- Executes statements one after the other. -/
def executeAll (statements : List Statement) : Action (PgSession τ) (List Response) :=
  statements.mapM gateway.execute

theorem executeAll_cons (statement : Statement) (statements : List Statement) :
    gateway.executeAll (statement :: statements) = (do
      return (← gateway.execute statement) :: (← gateway.executeAll statements)) :=
  List.mapM_cons

/-- The same gateway with a handler or without one. -/
def handled (handler : Bool) : PgGateway τ := { gateway with hasHandler := handler }

/-- The responses to statements and the state of the server do not depend on the handler, to which
the lost connections are reported in order. -/
theorem run_executeAll (statements : List Statement) (start : τ) :
    ∃ responses final, responses.length = statements.length ∧
      ∀ (handler : Bool) (world : World (PgSession τ)), world.connection.server = start →
        ((gateway.handled handler).executeAll statements).run world =
          (responses, (gateway.handled handler).left world final (responses.filterMap lost?)) := by
  induction statements generalizing start with
  | nil =>
      refine ⟨[], start, rfl, ?_⟩
      rintro handler world rfl
      simp only [left, List.filterMap_nil, ite_self, List.map_nil, List.append_nil]
      rfl
  | cons statement statements ih =>
      let course := gateway.course statement start
      obtain ⟨responses, final, hlength, hrun⟩ := ih course.final
      refine ⟨course.result :: responses, final, congrArg (· + 1) hlength, ?_⟩
      rintro handler world rfl
      have hcall := (gateway.handled handler).run_execute statement world
      have hlost : (lost? course.result).toList ++ responses.filterMap lost? =
          (course.result :: responses).filterMap lost? := by
        rw [List.filterMap_cons]
        cases lost? course.result <;> rfl
      rw [executeAll_cons, Action.run_seq _ hcall, Action.run_seq _ (hrun handler _ rfl), ← hlost,
        ← left_left]
      rfl

/-! ### Reports -/

/-- With a handler, a call that fails with an error that a lost connection caused reports this error
once, and no other call reports anything.  An error is caused by the driver if and only if the
server refused to give out a connection, to describe the statement or to execute it, and no
connection is lost by a success, by an error that the server reports, or by values of the wrong
number or of the wrong types.  Over a run of calls the lost connections are reported in their order,
and without a handler the run has the same responses and leaves the same server and log. -/
theorem reports_each_lost_connection_once (gateway : PgGateway τ) :
    (∀ (response : Response) (e : BackendError), lost? response = some e ↔
      response = .error e ∧ ∃ d, e.cause = some d ∧ d.LosesConnection) ∧
    (∀ (statement : Statement) (start : τ),
      let server := gateway.server
      ∃ response final,
        (∀ (handler : Bool) (reports : List BackendError) (log : List LogEvent),
          ((gateway.handled handler).execute statement).run ⟨⟨start, reports⟩, log⟩ =
            (response,
              ⟨⟨final, reports ++ if handler then (lost? response).toList else []⟩,
                log ++ (lost? response).toList.map (.connectionFailed gateway.target)⟩)) ∧
        (∀ e d, response = .error e ∧ e.cause = some d ↔
          server.Refuses statement start d ∧ e = .ofDriver d) ∧
        ((∃ result, response = .ok result) ∨
            (∃ code message, server.Refuses statement start (.database code message)) ∨
            (∃ description ready, server.Describes statement.sql start description ready ∧
              ¬ description.Accepts statement.params) →
          lost? response = none)) ∧
    ∀ (statements : List Statement) (start : τ),
      ∃ responses final, responses.length = statements.length ∧
        ∀ (handler : Bool) (reports : List BackendError) (log : List LogEvent),
          ((gateway.handled handler).executeAll statements).run ⟨⟨start, reports⟩, log⟩ =
            (responses,
              ⟨⟨final, reports ++ if handler then responses.filterMap lost? else []⟩,
                log ++ (responses.filterMap lost?).map (.connectionFailed gateway.target)⟩) := by
  refine ⟨fun _ _ => lost?_eq_some_iff, ?_, ?_⟩
  · intro statement start server
    let course := gateway.course statement start
    refine ⟨course.result, course.final, fun handler reports log => ?_,
      gateway.fails_by_driver_iff statement start, ?_⟩
    · exact (gateway.handled handler).run_execute statement ⟨⟨start, reports⟩, log⟩
    · rintro (⟨result, hresult⟩ | ⟨code, message, hrefuses⟩ |
        ⟨description, ready, hready, haccepts⟩)
      · rw [hresult]
        rfl
      · obtain ⟨hresult, -⟩ := (gateway.fails_by_driver_iff _ _ _ _).mpr ⟨hrefuses, rfl⟩
        rw [show course.result = _ from hresult]
        rfl
      · exact gateway.lost?_of_not_accepts hready haccepts
  · intro statements start
    obtain ⟨responses, final, hlength, hrun⟩ := gateway.run_executeAll statements start
    exact ⟨responses, final, hlength, fun handler reports log => hrun handler _ rfl⟩

/-- A server that counts the connections it gives out: there is none at first, the next one breaks,
and the third one is told that a key exists. -/
def unsteady : Server Nat where
  connect _ := pure ()
  acquire n := (if n = 0 then .error .poolTimedOut else .ok (), n + 1)
  describe _ n := (.ok {}, n)
  execute _ _ n :=
    (if n = 2 then .error (.io "reset") else if n = 3 then .error (.database "23505" "duplicate")
      else .ok { tag := "UPDATE 1" }, n)
  close := pure ()

/-- Four calls of which the first two lose a connection, and none of the others does. -/
theorem reports_each_lost_connection_once_unsteady :
    let gateway : PgGateway Nat := .ofPool unsteady false
    let timeout : BackendError := .ofDriver .poolTimedOut
    let broken : BackendError := .ofDriver (.io "reset")
    let duplicate : BackendError := .ofDriver (.database "23505" "duplicate")
    let responses : List Response :=
      [.error timeout, .error broken, .error duplicate, .ok ⟨[], 1⟩]
    let log : List LogEvent :=
      [.connectionFailed "<pool>" timeout, .connectionFailed "<pool>" broken]
    let statements : List Statement := List.replicate 4 ⟨"q", []⟩
    ((gateway.handled true).executeAll statements).run ⟨⟨0, []⟩, []⟩ =
        (responses, ⟨⟨4, [timeout, broken]⟩, log⟩) ∧
      ((gateway.handled false).executeAll statements).run ⟨⟨0, []⟩, []⟩ =
        (responses, ⟨⟨4, []⟩, log⟩) ∧
      unsteady.Refuses ⟨"q", []⟩ 1 (.io "reset") ∧
      lost? (.error duplicate) = none := by
  intro gateway timeout broken duplicate responses log statements
  obtain ⟨hlost, hcalls, hruns⟩ := reports_each_lost_connection_once gateway
  obtain ⟨given, final, -, hrun⟩ := hruns statements 0
  have hgiven : given = responses := congrArg Prod.fst (hrun true [] []).symm
  have hfinal : final = 4 := congrArg (·.2.connection.server) (hrun true [] []).symm
  have hfiltered : responses.filterMap lost? = [timeout, broken] := by
    have htimeout := (hlost (.error timeout) timeout).mpr ⟨rfl, _, rfl, .poolTimedOut⟩
    have hbroken := (hlost (.error broken) broken).mpr ⟨rfl, _, rfl, .io _⟩
    simp only [responses, List.filterMap_cons, htimeout, hbroken]
    rfl
  rw [hgiven, hfinal, hfiltered] at hrun
  obtain ⟨broke, afterBreak, hbreak, hcause, -⟩ := hcalls ⟨"q", []⟩ 1
  have hbroke : broke = .error broken := congrArg Prod.fst (hbreak true [] []).symm
  obtain ⟨refused, afterRefusal, hrefusal, -, hnever⟩ := hcalls ⟨"q", []⟩ 2
  have hrefused : refused = .error duplicate := congrArg Prod.fst (hrefusal true [] []).symm
  have hready : unsteady.Describes "q" 2 {} 3 := ⟨3, rfl, rfl⟩
  have hrefuses : unsteady.Refuses ⟨"q", []⟩ 2 (.database "23505" "duplicate") :=
    .execute hready rfl rfl rfl
  exact ⟨hrun true [] [], hrun false [] [], ((hcause broken (.io "reset")).mp ⟨hbroke, rfl⟩).1,
    hrefused ▸ hnever (.inr (.inl ⟨_, _, hrefuses⟩))⟩

end PgGateway

end PgCollections
