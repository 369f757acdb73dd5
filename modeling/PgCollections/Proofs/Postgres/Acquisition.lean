import PgCollections.Proofs.Postgres.Reports

/-! # Failures of acquisition

`BackendError.isAcquireFailure` goes by the kind of the driver's failure alone.  The stages at which
a server can refuse a statement (`Server.Refuses`) have failures of the same kinds, so that the kind
does not tell whether a connection had been handed out.  `PgGateway.isAcquireFailure_iff_lost` says
what it does tell, and when that is the same. -/

namespace PgCollections

namespace Server

variable {τ : Type} (server : Server τ) (start : τ)

/-- The server gives out a connection. -/
def HandsOut : Prop := ∃ acquired, server.acquire start = (.ok (), acquired)

/-- The server gives out no connection, for a reason in which one is lost or cannot be had. -/
def FailsToAcquire : Prop :=
  ∃ d refused, server.acquire start = (.error d, refused) ∧ d.LosesConnection

/-- The connection is lost when the converted values have been sent. -/
def LosesInExecution (statement : Statement) : Prop :=
  ∃ description ready arguments d final,
    server.Describes statement.sql start description ready ∧
    description.parameters.length = statement.params.length ∧
    Argument.ofValues description.parameters statement.params = .ok arguments ∧
    server.execute statement.sql arguments ready = (.error d, final) ∧ d.LosesConnection

variable {server start}

theorem not_failsToAcquire_of_handsOut (h : server.HandsOut start) :
    ¬ server.FailsToAcquire start := by
  obtain ⟨acquired, hacquired⟩ := h
  rintro ⟨d, refused, hrefused, -⟩
  cases hacquired.symm.trans hrefused

/-- Where no connection is given out, the refusal is that of the acquisition. -/
theorem failsToAcquire_iff_of_not_handsOut (h : ¬ server.HandsOut start) (statement : Statement) :
    server.FailsToAcquire start ↔
      ∃ d, server.Refuses statement start d ∧ d.LosesConnection := by
  constructor
  · rintro ⟨d, refused, hrefused, hlost⟩
    exact ⟨d, .acquire hrefused, hlost⟩
  · rintro ⟨d, hrefuses, hlost⟩
    cases hrefuses with
    | acquire hrefused => exact ⟨d, _, hrefused, hlost⟩
    | describe hacquire _ => exact absurd ⟨_, hacquire⟩ h
    | execute hready _ _ _ =>
        obtain ⟨acquired, hacquire, -⟩ := hready
        exact absurd ⟨acquired, hacquire⟩ h

end Server

namespace PgGateway

variable {τ : Type} {gateway : PgGateway τ} {statement : Statement} {start : τ} {e : BackendError}

/-- A call that fails is a failure of acquisition by its kind if and only if a connection was lost
at any of the stages. -/
theorem isAcquireFailure_iff_refuses (h : (gateway.course statement start).result = .error e) :
    e.isAcquireFailure ↔
      ∃ d, gateway.server.Refuses statement start d ∧ d.LosesConnection := by
  rw [e.isAcquireFailure_iff]
  constructor
  · rintro ⟨d, hcause, hlost⟩
    exact ⟨d, ((gateway.fails_by_driver_iff statement start e d).mp ⟨h, hcause⟩).1, hlost⟩
  · rintro ⟨d, hrefuses, hlost⟩
    obtain ⟨hresult, hcause⟩ :=
      (gateway.fails_by_driver_iff statement start (.ofDriver d) d).mpr ⟨hrefuses, rfl⟩
    obtain rfl := Except.error.inj (h.symm.trans hresult)
    exact ⟨d, hcause, hlost⟩

/-- Nothing is executed without a connection. -/
theorem executions_of_not_handsOut (h : ¬ gateway.server.HandsOut start) :
    (gateway.course statement start).executions = [] := by
  by_contra hexecuted
  obtain ⟨description, ready, ⟨acquired, hacquire, -⟩, -⟩ := exists_accepts_of_executions hexecuted
  exact h ⟨acquired, hacquire⟩

/-- A connection that is lost after something was executed is lost in the execution. -/
theorem lost_and_executed_iff (h : (gateway.course statement start).result = .error e) :
    e.isAcquireFailure ∧ (gateway.course statement start).executions ≠ [] ↔
      gateway.server.LosesInExecution start statement := by
  constructor
  · rintro ⟨hfailure, hexecuted⟩
    obtain ⟨d, hrefuses, hlost⟩ := (isAcquireFailure_iff_refuses h).mp hfailure
    cases hrefuses with
    | acquire hrefused =>
        rw [course_of_refused hrefused] at hexecuted
        exact absurd rfl hexecuted
    | describe hacquire hrefused =>
        rw [course_of_undescribed hacquire hrefused] at hexecuted
        exact absurd rfl hexecuted
    | execute hready hcount hvalues hrefused =>
        exact ⟨_, _, _, d, _, hready, hcount, hvalues, hrefused, hlost⟩
  · rintro ⟨description, ready, arguments, d, final, hready, hcount, hvalues, hrefused, hlost⟩
    refine ⟨(isAcquireFailure_iff_refuses h).mpr
      ⟨d, .execute hready hcount hvalues hrefused, hlost⟩, ?_⟩
    rw [course_of_converted hready hcount hvalues]
    exact List.cons_ne_nil _ _

/-- What the kind of a failure tells about a call.  It is that of a failed acquisition if and only
if a connection was lost or could not be had at any stage: before a connection was handed out, while
the statement was described, or when it had been sent to be executed.  So it tells that no
connection had been handed out exactly where the acquisition failed by the loss of a connection, or
a connection was handed out and not lost.  A wrong number of values and values that do not convert
are never told to be a failed acquisition. -/
theorem isAcquireFailure_iff_lost {world after : World (PgSession τ)}
    (h : (gateway.execute statement).run world = (.error e, after)) :
    let server := gateway.server
    let start := world.connection.server
    let executions := (gateway.course statement start).executions
    (e.isAcquireFailure ↔ ∃ d, server.Refuses statement start d ∧ d.LosesConnection) ∧
    ((e.isAcquireFailure ↔ ¬ server.HandsOut start) ↔
      server.FailsToAcquire start ∨
        server.HandsOut start ∧ ¬ ∃ d, server.Refuses statement start d ∧ d.LosesConnection) ∧
    (¬ server.HandsOut start → executions = []) ∧
    (e.isAcquireFailure ∧ executions ≠ [] ↔ server.LosesInExecution start statement) ∧
    ∀ description ready, server.Describes statement.sql start description ready →
      ¬ description.Accepts statement.params → executions = [] ∧ ¬ e.isAcquireFailure := by
  intro server start executions
  have hresult : (gateway.course statement start).result = .error e := by
    rw [run_execute] at h
    exact congrArg Prod.fst h
  have hkind : e.isAcquireFailure ↔ ∃ d, server.Refuses statement start d ∧ d.LosesConnection :=
    isAcquireFailure_iff_refuses hresult
  refine ⟨hkind, ?_, executions_of_not_handsOut, lost_and_executed_iff hresult, ?_⟩
  · by_cases hout : server.HandsOut start
    · have hnot := Server.not_failsToAcquire_of_handsOut hout
      simp only [hkind, hout, hnot, not_true, iff_false, false_or, true_and]
    · have hfails := Server.failsToAcquire_iff_of_not_handsOut hout statement
      simp only [hkind, hfails, hout, not_false_eq_true, iff_true, false_and, or_false]
  · intro description ready hready haccepts
    obtain ⟨refusal, hcause, hcourse⟩ := gateway.course_of_not_accepts hready haccepts
    have he : e = refusal.toBackend := by
      rw [hcourse] at hresult
      exact (Except.error.inj hresult).symm
    refine ⟨congrArg Course.executions hcourse, fun hfailure => ?_⟩
    obtain ⟨d, hd, -⟩ := e.isAcquireFailure_iff.mp hfailure
    rw [he, PgError.toBackend, hcause] at hd
    cases hd

/-- The first call to a server whose pool has no connection left. -/
theorem isAcquireFailure_iff_lost_unsteady :
    let gateway : PgGateway Nat := .ofPool unsteady false
    let timeout : BackendError := .ofDriver .poolTimedOut
    ∃ after, (gateway.execute ⟨"q", []⟩).run ⟨⟨0, []⟩, []⟩ = (.error timeout, after) ∧
      unsteady.FailsToAcquire 0 ∧ timeout.isAcquireFailure ∧ ¬ unsteady.HandsOut 0 ∧
      (gateway.course ⟨"q", []⟩ 0).executions = [] := by
  intro gateway timeout
  have hcall : (gateway.execute ⟨"q", []⟩).run ⟨⟨0, []⟩, []⟩ = (.error timeout, _) := rfl
  obtain ⟨hkind, hagrees, hnothing, -⟩ := isAcquireFailure_iff_lost hcall
  have hfails : unsteady.FailsToAcquire 0 := ⟨_, _, rfl, .poolTimedOut⟩
  have hfailure : timeout.isAcquireFailure := hkind.mpr ⟨_, .acquire rfl, .poolTimedOut⟩
  have hout : ¬ unsteady.HandsOut 0 := (hagrees.mpr (.inl hfails)).mp hfailure
  exact ⟨_, hcall, hfails, hfailure, hout, hnothing hout⟩

/-- A server that keeps the texts it executes, and loses the connection in the first execution. -/
def severed : Server (List String) where
  connect _ := pure ()
  acquire := pure ()
  describe _ := pure {}
  execute sql _ executed :=
    (if executed.isEmpty then .error (.io "reset") else .ok { tag := "UPDATE 1" },
      executed ++ [sql])
  close := pure ()

/-- A connection that was handed out and lost in the execution is told to be a failed acquisition,
and whoever tries again has the statement executed twice.  A server that refuses to give out a
connection with an error of its own is not told to be one. -/
theorem isAcquireFailure_severed :
    let gateway : PgGateway (List String) := .ofPool severed false
    let broken : BackendError := .ofDriver (.io "reset")
    let rejected : BackendError := .ofDriver (.database "28P01" "rejected")
    let rejecting : Server Unit := .unreachable (.database "28P01" "rejected")
    (∃ after, (gateway.execute ⟨"UPDATE t", []⟩).run ⟨⟨[], []⟩, []⟩ = (.error broken, after) ∧
      after.connection.server = ["UPDATE t"]) ∧
    severed.HandsOut [] ∧ broken.isAcquireFailure = true ∧
    ((gateway.executeAll [⟨"UPDATE t", []⟩, ⟨"UPDATE t", []⟩]).run
      ⟨⟨[], []⟩, []⟩).2.connection.server = ["UPDATE t", "UPDATE t"] ∧
    (∃ after, ((PgGateway.ofPool rejecting false).execute ⟨"UPDATE t", []⟩).run ⟨⟨(), []⟩, []⟩ =
      (.error rejected, after)) ∧
    ¬ rejecting.HandsOut () ∧ rejected.isAcquireFailure = false := by
  intro gateway broken rejected rejecting
  refine ⟨⟨_, rfl, rfl⟩, ⟨_, rfl⟩, rfl, rfl, ⟨_, rfl⟩, ?_, rfl⟩
  rintro ⟨acquired, hacquired⟩
  cases hacquired

end PgGateway

end PgCollections
