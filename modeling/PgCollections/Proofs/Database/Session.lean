import PgCollections.Proofs.Database.Step

/-! # Sessions

A session carries out steps one after the other, through a gateway that answers from a script.
`Session.run_scripted` follows by induction from what one step does: the session sends the
statements of its steps in order, and `Session.outcomes` and `Session.exchanges` pair each of them
with the response at the same place.  The main statement is `Session.sends_each_statement_once`. -/

namespace PgCollections

/-- A statement that a step sent, with the response. -/
structure Exchange where
  step : Step
  statement : Statement
  response : Response

def Exchange.events (diagnostics : Diagnostics) (x : Exchange) : List LogEvent :=
  x.step.events diagnostics x.statement x.response

/-- The world after exchanges with the gateway. -/
def World.exchanged (world : World Script) (diagnostics : Diagnostics) (xs : List Exchange) :
    World Script :=
  ⟨⟨world.connection.responses.drop xs.length,
      world.connection.executed ++ xs.map Exchange.statement⟩,
    world.log ++ xs.flatMap (Exchange.events diagnostics)⟩

theorem World.exchanged_nil (world : World Script) (diagnostics : Diagnostics) :
    world.exchanged diagnostics [] = world := by
  simp [exchanged]

theorem World.exchanged_exchanged (world : World Script) (diagnostics : Diagnostics)
    (xs ys : List Exchange) :
    (world.exchanged diagnostics xs).exchanged diagnostics ys =
      world.exchanged diagnostics (xs ++ ys) := by
  simp [exchanged]

namespace Step

/-- The statement that the step sends, if any. -/
def sent (flags : Flags) (step : Step) : List Statement :=
  match step.statement? flags with
  | .ok (some s) => [s]
  | _ => []

/-- The statement that the step sends, if any, with the given response. -/
def exchanges (flags : Flags) (step : Step) (response : Response) : List Exchange :=
  (step.sent flags).map (⟨step, ·, response⟩)

/-- A step sends its statement or nothing. -/
theorem sent_cases (flags : Flags) (step : Step) :
    (∃ s, step.statement? flags = .ok (some s) ∧ step.sent flags = [s]) ∨ step.sent flags = [] := by
  rw [sent]
  match step.statement? flags with
  | .ok (some s) => exact .inl ⟨s, rfl, rfl⟩
  | .ok none | .error e => exact .inr rfl

theorem run_exchanges (diagnostics : Diagnostics) (flags : Flags) (step : Step)
    (world : World Script) :
    (step.run (.scripted diagnostics flags)).run world =
      (step.outcome flags world.response,
        world.exchanged diagnostics (step.exchanges flags world.response)) := by
  rw [run_scripted, outcome, exchanges, sent]
  match step.statement? flags with
  | .ok (some s) => simp [World.exchanged, World.sent, World.logged, Exchange.events]
  | .ok none => exact congrArg _ (world.exchanged_nil diagnostics).symm
  | .error e => exact congrArg _ (world.exchanged_nil diagnostics).symm

end Step

namespace Session

/-- Carries out steps one after the other. -/
def run {σ : Type} (db : Database σ) (steps : List Step) :
    Action σ (List (Except DbError Answer)) :=
  steps.mapM (Step.run db)

theorem run_cons {σ : Type} (db : Database σ) (step : Step) (steps : List Step) :
    run db (step :: steps) = (do return (← step.run db) :: (← run db steps)) :=
  List.mapM_cons

variable (diagnostics : Diagnostics) (flags : Flags)

/-- The statements that the steps send, in order. -/
def sent (steps : List Step) : List Statement := steps.flatMap (Step.sent flags)

/-- What the steps give, when the statements they send take the responses in order. -/
def outcomes : List Step → List Response → List (Except DbError Answer)
  | [], _ => []
  | step :: steps, responses =>
    step.outcome flags (responses.headD .default) ::
      outcomes steps (responses.drop (step.sent flags).length)

/-- The statements that the steps send, each with its response. -/
def exchanges : List Step → List Response → List Exchange
  | [], _ => []
  | step :: steps, responses =>
    step.exchanges flags (responses.headD .default) ++
      exchanges steps (responses.drop (step.sent flags).length)

/-- A session sends the statements of its steps in order, and gives them the responses in order. -/
theorem run_scripted (steps : List Step) (world : World Script) :
    (run (.scripted diagnostics flags) steps).run world =
      (outcomes flags steps world.connection.responses,
        world.exchanged diagnostics (exchanges flags steps world.connection.responses)) := by
  induction steps generalizing world with
  | nil => exact congrArg _ (world.exchanged_nil diagnostics).symm
  | cons step steps ih =>
      have hstep := step.run_exchanges diagnostics flags world
      have hresponses : (world.exchanged diagnostics
          (step.exchanges flags world.response)).connection.responses =
          world.connection.responses.drop (step.sent flags).length := by
        simp [World.exchanged, Step.exchanges]
      rw [run_cons, Action.run_seq _ hstep, Action.run_seq _ (ih _), hresponses,
        World.exchanged_exchanged]
      rfl

/-! ### Places -/

theorem length_outcomes (steps : List Step) (responses : List Response) :
    (outcomes flags steps responses).length = steps.length := by
  induction steps generalizing responses with
  | nil => rfl
  | cons step steps ih => rw [outcomes, List.length_cons, ih, List.length_cons]

theorem statement_exchanges (steps : List Step) (responses : List Response) :
    (exchanges flags steps responses).map Exchange.statement = sent flags steps := by
  induction steps generalizing responses with
  | nil => rfl
  | cons step steps ih =>
      rw [exchanges, List.map_append, ih, Step.exchanges, List.map_map]
      exact congrArg (· ++ sent flags steps) (List.map_id (step.sent flags))

theorem outcomes_append (steps more : List Step) (responses : List Response) :
    outcomes flags (steps ++ more) responses =
      outcomes flags steps responses ++
        outcomes flags more (responses.drop (sent flags steps).length) := by
  induction steps generalizing responses with
  | nil => rfl
  | cons step steps ih =>
      simp [outcomes, sent, ih]

/-- A step gives what it makes of the response at the place of its statement. -/
theorem getElem?_outcomes (before : List Step) (step : Step) (rest : List Step)
    (responses : List Response) :
    (outcomes flags (before ++ step :: rest) responses)[before.length]? =
      some (step.outcome flags (responses.getD (sent flags before).length .default)) := by
  rw [outcomes_append, List.getElem?_append_right (by rw [length_outcomes]), length_outcomes,
    Nat.sub_self, outcomes]
  simp

/-- A session from the beginning of a script. -/
theorem run_from_start (steps : List Step) (responses : List Response) (log : List LogEvent) :
    (run (.scripted diagnostics flags) steps).run ⟨⟨responses, []⟩, log⟩ =
      (outcomes flags steps responses,
        ⟨⟨responses.drop (sent flags steps).length, sent flags steps⟩,
          log ++ (exchanges flags steps responses).flatMap (Exchange.events diagnostics)⟩) := by
  rw [run_scripted, ← statement_exchanges flags steps responses]
  simp [World.exchanged]

/-- The `k`-th exchange has the `k`-th response, and is that of a step that stands behind `k`
statements. -/
theorem exists_step_of_getElem?_exchanges {steps : List Step} {responses : List Response} {k : Nat}
    {x : Exchange} (h : (exchanges flags steps responses)[k]? = some x) :
    x.response = responses.getD k .default ∧
      ∃ before rest, steps = before ++ x.step :: rest ∧ (sent flags before).length = k ∧
        x.step.statement? flags = .ok (some x.statement) := by
  induction steps generalizing responses k with
  | nil => cases h
  | cons first steps ih =>
      rw [exchanges, Step.exchanges] at h
      -- If the first step sends a statement, then the places of the others are one further on.
      obtain ⟨s, hs, hsent⟩ | hsent := first.sent_cases flags
      · rw [hsent] at h
        cases k with
        | zero =>
            obtain rfl := Option.some.inj h
            have hfirst : responses.headD .default = responses.getD 0 .default := by
              cases responses <;> rfl
            exact ⟨hfirst, [], steps, rfl, rfl, hs⟩
        | succ k =>
            obtain ⟨hresponse, before, rest, rfl, rfl, hx⟩ := ih h
            refine ⟨by simpa using hresponse, first :: before, rest, rfl, ?_, hx⟩
            simp [sent, hsent, Nat.add_comm]
      · rw [hsent] at h
        obtain ⟨hresponse, before, rest, rfl, rfl, hx⟩ := ih h
        exact ⟨hresponse, first :: before, rest, rfl, by simp [sent, hsent], hx⟩

/-- The step of an exchange gives what it makes of the response. -/
theorem exists_outcome_of_getElem?_exchanges {steps : List Step} {responses : List Response}
    {k : Nat} {x : Exchange} (h : (exchanges flags steps responses)[k]? = some x) :
    x.response = responses.getD k .default ∧
      ∃ before rest, steps = before ++ x.step :: rest ∧ (sent flags before).length = k ∧
        x.step.statement? flags = .ok (some x.statement) ∧
        (outcomes flags steps responses)[before.length]? = some (x.step.reply x.response) := by
  obtain ⟨hresponse, before, rest, rfl, rfl, hs⟩ := exists_step_of_getElem?_exchanges flags h
  have houtcome := getElem?_outcomes flags before x.step rest responses
  rw [Step.outcome, hs, ← hresponse] at houtcome
  exact ⟨hresponse, before, rest, rfl, rfl, hs, houtcome⟩

/-- A step sends one statement, its own, if it is valid and none otherwise.  Of a session, the
`k`-th statement is answered by the `k`-th response, and it is what some step needs: if that step
is an operation on a table, the placeholders are numbered from 1. -/
theorem sends_each_statement_once :
    (∀ (step : Step) (world : World Script),
      let after := ((step.run (.scripted diagnostics flags)).run world).2.connection
      (step.Valid → ∃ s, step.statement? flags = .ok (some s) ∧
        after = ⟨world.connection.responses.tail, world.connection.executed ++ [s]⟩) ∧
      (¬ step.Valid → after = world.connection)) ∧
    (∀ (steps : List Step) (responses : List Response) (log : List LogEvent),
      let ran := (run (.scripted diagnostics flags) steps).run ⟨⟨responses, []⟩, log⟩
      ran.2.connection = ⟨responses.drop (sent flags steps).length, sent flags steps⟩ ∧
      ∀ k s, ran.2.connection.executed[k]? = some s →
        ∃ before step rest, steps = before ++ step :: rest ∧
          (sent flags before).length = k ∧ step.statement? flags = .ok (some s) ∧
          ran.1[before.length]? = some (step.reply (responses.getD k .default)) ∧
          ∀ name op, step = .table name op → s.Numbered) := by
  constructor
  · intro step world
    rw [step.run_scripted, step.valid_iff flags]
    match step.statement? flags with
    | .ok (some s) => exact ⟨fun _ => ⟨s, rfl, rfl⟩, fun h => absurd ⟨s, rfl⟩ h⟩
    | .ok none | .error e =>
        refine ⟨?_, fun _ => rfl⟩
        rintro ⟨s, hs⟩
        cases hs
  · intro steps responses log
    rw [run_from_start]
    refine ⟨rfl, fun k s hk => ?_⟩
    rw [← statement_exchanges flags steps responses, List.getElem?_map] at hk
    obtain ⟨x, hx, rfl⟩ := Option.map_eq_some_iff.mp hk
    obtain ⟨hresponse, before, rest, hsteps, hplace, hs, houtcome⟩ :=
      exists_outcome_of_getElem?_exchanges flags hx
    rw [hresponse] at houtcome
    refine ⟨before, x.step, rest, hsteps, hplace, hs, houtcome, ?_⟩
    intro name op hop
    rw [hop] at hs
    exact Operation.numbered_of_statement? hs

/-- A removal whose filter has a condition that compiles and one that does not. -/
def refusedRemoval : Step :=
  .table "t" (.remove ⟨[("f", .value (.nat 1)), ("g", .operator (.all []))]⟩)

theorem sends_each_statement_once_refusedRemoval :
    let db : Database Script := .scripted (Logging.diagnostics {}) {}
    let failure : BackendError := ⟨some "42P01", "no table", none⟩
    let drop : Step := .table "t" .drop
    let world : World Script := ⟨⟨[.error failure, .ok {}], []⟩, []⟩
    let ran := (run db [refusedRemoval, drop]).run world
    ¬ refusedRemoval.Valid ∧
      ((refusedRemoval.run db).run world).2.connection = world.connection ∧
      drop.Valid ∧
      ((drop.run db).run world).2.connection = ⟨[.ok {}], [.dropTable "t"]⟩ ∧
      ran.2.connection.executed[0]? = some (.dropTable "t") ∧
      ran.1[1]? = some (.error (.backend failure)) := by
  intro db failure drop world ran
  obtain ⟨hsteps, hsession⟩ := sends_each_statement_once (Logging.diagnostics {}) {}
  have hrefused : ¬ refusedRemoval.Valid := by
    intro hvalid
    have hfault := (Filter.compiles_iff _).mp hvalid
    cases hfault
  have hkept := (hsteps refusedRemoval world).2 hrefused
  obtain ⟨s, hdrop, hsent⟩ := (hsteps drop world).1 trivial
  cases hdrop
  obtain ⟨hconnection, hplaces⟩ := hsession [refusedRemoval, drop] world.connection.responses []
  have hexecuted : ran.2.connection.executed[0]? = some (.dropTable "t") := by
    rw [hconnection]
    rfl
  obtain ⟨before, step, rest, hsplit, -, hs, hreply, -⟩ := hplaces 0 _ hexecuted
  refine ⟨hrefused, hkept, trivial, hsent, hexecuted, ?_⟩
  match before, hsplit with
  | [], hsplit =>
      cases hsplit
      cases hs
  | [first], hsplit =>
      cases hsplit
      exact hreply

end Session

end PgCollections
