import PgCollections.Proofs.Filter.Visit
import PgCollections.Proofs.Sql.Predicate

/-! # Building in turns

Several steps that build over the same bindings take turns: each goes on from what the one before
it left bound, and one that fails does not undo what it bound.  `BuildStep.runFrom_build` says what
one step does from any bindings: it binds the values of the operators that it meets before the first
faulty one, and fails with the fault of that one.  By induction each turn of a run does so from
bindings whose numbers agree with their values (`Turn.binds_until_first_fault`). -/

namespace PgCollections

/-- A step in the building of a statement. -/
inductive BuildStep where
  | value (v : Json)
  | operator (field : String) (op : Operator)
  | predicate (filter : Filter)
  | whereClause (filter : Filter)

namespace BuildStep

def build : BuildStep → Building String
  | value v => Building.bind v
  | operator field op => op.predicate field
  | predicate filter => filter.predicate
  | whereClause filter => filter.whereClause

/-- The operators that the step meets. -/
def visits : BuildStep → List Visit
  | value _ => []
  | operator field op => op.visits field
  | predicate filter | whereClause filter => filter.visits

/-- The values that the step binds. -/
def bound : BuildStep → List Json
  | value v => [v]
  | step => Visit.settled step.visits

/-- What compiling does, told of the operators that are met. -/
theorem snd_compiled {parts : Parts} {visits : List Visit} (h : parts.Summarises visits)
    (b : Bindings) : (parts.compiled b).2 = b.addAll (Visit.settled visits) := by
  rw [Parts.compiled, h.values]

theorem compiled_eq_error_iff {parts : Parts} {visits : List Visit} (h : parts.Summarises visits)
    (b : Bindings) (e : DbError) : (parts.compiled b).1 = .error e ↔
      ∃ cause, visits.findSome? Visit.fault? = some cause ∧ e = .validation cause := by
  rw [Parts.compiled, ← h.fault]
  cases Parts.fault? parts with
  | none => simp
  | some cause => simp [eq_comm]

/-- A step binds its values, whether it fails or not. -/
theorem snd_runFrom (step : BuildStep) (b : Bindings) :
    (step.build.runFrom b).2 = b.addAll step.bound := by
  cases step with
  | value v => exact b.add_eq_addAll v
  | operator field op =>
      rw [build, op.runFrom_predicate, snd_compiled (op.summarises_parts field)]
      rfl
  | predicate filter =>
      rw [build, filter.runFrom_predicate, snd_compiled filter.summarises_parts]
      rfl
  | whereClause filter =>
      rw [build, filter.runFrom_whereClause]
      exact congrArg b.addAll filter.summarises_parts.values

/-- A step fails with the fault of the first faulty operator that it meets, and only so. -/
theorem fst_runFrom_eq_error_iff (step : BuildStep) (b : Bindings) (e : DbError) :
    (step.build.runFrom b).1 = .error e ↔
      ∃ cause, step.visits.findSome? Visit.fault? = some cause ∧ e = .validation cause := by
  cases step with
  | value v => simp [build, visits]
  | operator field op =>
      rw [build, op.runFrom_predicate, compiled_eq_error_iff (op.summarises_parts field)]
      rfl
  | predicate filter =>
      rw [build, filter.runFrom_predicate, compiled_eq_error_iff filter.summarises_parts]
      rfl
  | whereClause filter =>
      rw [build, filter.runFrom_whereClause, Filter.checked, Filter.fault?,
        filter.summarises_parts.fault]
      cases hfault : filter.visits.findSome? Visit.fault? with
      | none => simp [visits, hfault]
      | some cause => simp [visits, hfault, eq_comm]

end BuildStep

/-! ### Turns -/

/-- A step that was carried out: what was bound before it and after it, and what it gave. -/
structure Turn where
  step : BuildStep
  before : Bindings
  result : Except DbError String
  after : Bindings

namespace Turn

/-- The turn of a step with the given bindings. -/
def take (b : Bindings) (step : BuildStep) : Turn :=
  let (result, after) := step.build.runFrom b
  ⟨step, b, result, after⟩

/-- Steps that take turns.  A step that fails does not keep the next one from its turn. -/
def takeAll (b : Bindings) : List BuildStep → List Turn
  | [] => []
  | step :: steps => take b step :: takeAll (take b step).after steps

theorem after_take (b : Bindings) (step : BuildStep) : (take b step).after = b.addAll step.bound :=
  step.snd_runFrom b

/-- Turns leave the numbers in agreement with the values. -/
theorem aligned_take {b : Bindings} (h : b.Aligned) (step : BuildStep) :
    (take b step).after.Aligned := by
  unfold Bindings.Aligned at h ⊢
  rw [after_take, Bindings.index_addAll, Bindings.params_addAll, List.length_append, h]

theorem step_takeAll (b : Bindings) (steps : List BuildStep) :
    (takeAll b steps).map Turn.step = steps := by
  induction steps generalizing b with
  | nil => rfl
  | cons step steps ih => rw [takeAll, List.map_cons, ih, take]

/-- A turn begins with what the one before it left. -/
theorem isChain_takeAll (b : Bindings) (steps : List BuildStep) :
    (takeAll b steps).IsChain fun first second => second.before = first.after := by
  induction steps generalizing b with
  | nil => exact List.IsChain.nil
  | cons step steps ih => cases steps with
    | nil => exact List.IsChain.singleton _
    | cons next steps => exact List.IsChain.cons_cons rfl (ih _)

/-- Every turn of a run is that of some step with bindings in agreement. -/
theorem exists_of_mem_takeAll {b : Bindings} {steps : List BuildStep} {turn : Turn}
    (h : b.Aligned) (hturn : turn ∈ takeAll b steps) :
    ∃ b' : Bindings, b'.Aligned ∧ ∃ step, turn = take b' step := by
  induction steps generalizing b with
  | nil => cases hturn
  | cons step steps ih =>
      rcases List.mem_cons.mp hturn with hfirst | hlater
      · exact ⟨b, h, step, hfirst⟩
      · exact ih (aligned_take h step) hlater

/-- A turn fails if and only if its step meets a faulty operator. -/
theorem exists_error_iff (b : Bindings) (step : BuildStep) :
    (∃ e, (take b step).result = .error e) ↔ ∃ visit ∈ step.visits, visit.Faulty := by
  rw [Visit.exists_faulty_iff]
  constructor
  · rintro ⟨e, he⟩
    obtain ⟨cause, hcause, -⟩ := (step.fst_runFrom_eq_error_iff b e).mp he
    exact ⟨cause, hcause⟩
  · rintro ⟨cause, hcause⟩
    exact ⟨_, (step.fst_runFrom_eq_error_iff b _).mpr ⟨cause, hcause, rfl⟩⟩

/-- What a step binds that meets a faulty operator. -/
theorem bound_first {step : BuildStep} {met rest : List Visit} {visit : Visit}
    (hvisits : step.visits = met ++ visit :: rest) (hmet : ∀ v ∈ met, ¬ v.Faulty)
    (hvisit : visit.Faulty) : step.bound = met.flatMap Visit.values := by
  have hsettled : Visit.settled step.visits = met.flatMap Visit.values := by
    rw [hvisits, Visit.settled_first hmet hvisit]
  cases step with
  | value v => exact absurd hvisits (by simp [BuildStep.visits])
  | operator | predicate | whereClause => exact hsettled

/-- Of steps that take turns over the same bindings, each leaves the placeholder numbers in
agreement with the values, and keeps the values that were bound before.  A step fails if and only if
it meets a faulty operator; then the error is about the first one and names its field, and the step
has bound the values of the operators before it and no others. -/
theorem binds_until_first_fault {b : Bindings} (h : b.Aligned) (steps : List BuildStep) :
    (takeAll b steps).map Turn.step = steps ∧
    (∀ turn ∈ (takeAll b steps).head?, turn.before = b) ∧
    ((takeAll b steps).IsChain fun first second => second.before = first.after) ∧
    ∀ turn ∈ takeAll b steps,
      turn.after.index = turn.after.params.length ∧
      turn.before.params <+: turn.after.params ∧
      (∀ v, turn.step = .value v → turn.result = .ok (placeholder turn.after.index) ∧
        turn.after.params = turn.before.params ++ [v]) ∧
      ((∃ e, turn.result = .error e) ↔ ∃ visit ∈ turn.step.visits, visit.Faulty) ∧
      ∀ met visit rest, turn.step.visits = met ++ visit :: rest → (∀ v ∈ met, ¬ v.Faulty) →
        visit.Faulty →
          (∃ cause, visit.fault? = some cause ∧ turn.result = .error (.validation cause) ∧
            ∃ start finish, cause.message = start ++ ("'" ++ visit.field ++ "'") ++ finish) ∧
          turn.after.params = turn.before.params ++ met.flatMap Visit.values := by
  refine ⟨step_takeAll b steps, ?_, isChain_takeAll b steps, ?_⟩
  · intro turn hturn
    cases steps with
    | nil => cases hturn
    | cons step steps =>
        obtain rfl := Option.some.inj hturn
        rfl
  intro turn hturn
  obtain ⟨b', hb', step, rfl⟩ := exists_of_mem_takeAll h hturn
  have hparams : (take b' step).after.params = b'.params ++ step.bound := by
    rw [after_take, Bindings.params_addAll]
  refine ⟨aligned_take hb' step, ⟨step.bound, hparams.symm⟩, ?_, exists_error_iff b' step, ?_⟩
  · intro v hv
    change step = .value v at hv
    subst hv
    exact ⟨rfl, rfl⟩
  · intro met visit rest hvisits hmet hvisit
    change step.visits = met ++ visit :: rest at hvisits
    obtain ⟨cause, hcause⟩ := visit.faulty_iff.mp hvisit
    have hfirst : step.visits.findSome? Visit.fault? = some cause := by
      rw [hvisits, Visit.findSome?_first hmet hvisit, hcause]
    refine ⟨⟨cause, hcause, ?_, Visit.message_of_fault? hcause⟩, ?_⟩
    · exact (step.fst_runFrom_eq_error_iff b' _).mpr ⟨cause, hfirst, rfl⟩
    · rw [hparams, bound_first hvisits hmet hvisit]
      rfl

/-- A run whose second step meets a path without steps inside nested conjunctions. -/
def interrupted : List BuildStep :=
  [.value (.string "s"),
    .predicate ⟨[("a", .value (.nat 1)),
      ("b", .operator (.all [.compare .gt (.nat 2),
        .all [.oneOf [.nat 3, .nat 4], .path [] (.nat 5)], .compare .lt (.nat 6)])),
      ("c", .value (.nat 7))]⟩,
    .operator "d" (.any (.nat 8))]

theorem binds_until_first_fault_interrupted :
    ({} : Bindings).Aligned ∧
      ∃ turn ∈ takeAll {} interrupted,
        turn.result = .error (.validation (.emptyPath "b")) ∧
        turn.after.index = 5 ∧
        turn.after.params = [.string "s", .nat 1, .nat 2, .nat 3, .nat 4] := by
  have haligned : ({} : Bindings).Aligned := rfl
  obtain ⟨-, -, -, hturns⟩ := binds_until_first_fault haligned interrupted
  have hsecond : (takeAll {} interrupted)[1]? = some (take ⟨1, [.string "s"]⟩ interrupted[1]) := rfl
  obtain ⟨hindex, -, -, -, hfirst⟩ := hturns _ (List.mem_of_getElem? hsecond)
  -- The operators before the path, each conjunction before its members.
  let met : List Visit :=
    [⟨"a", .compare .eq (.nat 1)⟩,
      ⟨"b", .all [.compare .gt (.nat 2), .all [.oneOf [.nat 3, .nat 4], .path [] (.nat 5)],
        .compare .lt (.nat 6)]⟩,
      ⟨"b", .compare .gt (.nat 2)⟩,
      ⟨"b", .all [.oneOf [.nat 3, .nat 4], .path [] (.nat 5)]⟩,
      ⟨"b", .oneOf [.nat 3, .nat 4]⟩]
  have hmet : ∀ v ∈ met, ¬ v.Faulty := by simp [met, Visit.Faulty]
  obtain ⟨⟨cause, hcause, herror, -⟩, hparams⟩ :=
    hfirst met ⟨"b", .path [] (.nat 5)⟩ [⟨"b", .compare .lt (.nat 6)⟩, ⟨"c", .compare .eq (.nat 7)⟩]
      rfl hmet (.inl ⟨_, rfl⟩)
  obtain rfl := Option.some.inj hcause
  rw [hparams] at hindex
  exact ⟨haligned, _, List.mem_of_getElem? hsecond, herror, hindex, hparams⟩

end Turn

end PgCollections
