import PgCollections.Proofs.Database.Session

/-! # Failures

`RecognisedFailure.table` lists the failures of the database that have an error of their own.  Every
other failure is passed on as it is and reported to the sink.

`Exchange.events_eq` says so of one statement: what is logged about it is what a silent sink leaves,
and then the report of the failure, if it has to be reported.  The statement about sessions is
`Session.reports_each_unrecognised_failure_once`. -/

namespace PgCollections

/-- A failure of the database that has an error of its own. -/
structure RecognisedFailure where
  purpose : Purpose
  code : String
  error : DbError

namespace RecognisedFailure

def table : List RecognisedFailure :=
  [⟨.insert, "23505", .duplicateKey .insert⟩,
    ⟨.insert, "23503", .constraintViolation⟩,
    ⟨.update, "23505", .duplicateKey .update⟩,
    ⟨.remove, "23503", .referentialIntegrity⟩]

/-- The failure of a statement is this one. -/
def Matches (row : RecognisedFailure) (purpose : Purpose) (e : BackendError) : Prop :=
  row.purpose = purpose ∧ e.code = some row.code

instance (row : RecognisedFailure) (purpose : Purpose) (e : BackendError) :
    Decidable (row.Matches purpose e) :=
  inferInstanceAs (Decidable (_ ∧ _))

/-- The errors tell the rows apart. -/
theorem error_inj {row row' : RecognisedFailure} (h : row ∈ table) (h' : row' ∈ table)
    (herror : row.error = row'.error) : row = row' := by
  simp only [table, List.mem_cons, List.not_mem_nil, or_false] at h h'
  rcases h with rfl | rfl | rfl | rfl <;> rcases h' with rfl | rfl | rfl | rfl <;>
    first | rfl | cases herror

theorem error_ne_backend {row : RecognisedFailure} (h : row ∈ table) (e : BackendError) :
    row.error ≠ .backend e := by
  simp only [table, List.mem_cons, List.not_mem_nil, or_false] at h
  rcases h with rfl | rfl | rfl | rfl <;> simp

end RecognisedFailure

namespace Purpose

/-- The failure has an error of its own. -/
def Recognises (purpose : Purpose) (e : BackendError) : Prop :=
  ∃ row ∈ RecognisedFailure.table, row.Matches purpose e

instance (purpose : Purpose) (e : BackendError) : Decidable (purpose.Recognises e) :=
  inferInstanceAs (Decidable (∃ row ∈ RecognisedFailure.table, row.Matches purpose e))

theorem classify?_eq_some_iff {purpose : Purpose} {code : String} {d : DbError} :
    purpose.classify? code = some d ↔ ⟨purpose, code, d⟩ ∈ RecognisedFailure.table := by
  cases purpose with
  | find | drop | create | raw => simp [classify?, RecognisedFailure.table]
  | insert | update | remove =>
      unfold classify? SqlState.uniqueViolation SqlState.foreignKeyViolation
      split_ifs <;> simp_all [RecognisedFailure.table, eq_comm]

/-- A recognised failure is a row of the table. -/
theorem recognise?_eq_some_iff {purpose : Purpose} {e : BackendError} {code : String}
    {d : DbError} :
    purpose.recognise? e = some (code, d) ↔
      ⟨purpose, code, d⟩ ∈ RecognisedFailure.table ∧ e.code = some code := by
  have hrecognise : purpose.recognise? e = some (code, d) ↔
      ∃ code', e.code = some code' ∧ ∃ d', purpose.classify? code' = some d' ∧
        code' = code ∧ d' = d := by
    simp [recognise?, Option.bind_eq_some_iff]
  rw [hrecognise, ← classify?_eq_some_iff]
  constructor
  · rintro ⟨code, hcode, d, hclass, rfl, rfl⟩
    exact ⟨hclass, hcode⟩
  · rintro ⟨hclass, hcode⟩
    exact ⟨code, hcode, d, hclass, rfl, rfl⟩

theorem recognises_iff {purpose : Purpose} {e : BackendError} :
    purpose.Recognises e ↔ (purpose.recognise? e).isSome := by
  rw [Option.isSome_iff_exists]
  constructor
  · rintro ⟨⟨purpose, code, d⟩, hrow, rfl, hcode⟩
    exact ⟨(code, d), recognise?_eq_some_iff.mpr ⟨hrow, hcode⟩⟩
  · rintro ⟨⟨code, d⟩, h⟩
    obtain ⟨hrow, hcode⟩ := recognise?_eq_some_iff.mp h
    exact ⟨_, hrow, rfl, hcode⟩

/-- A recognised failure becomes the error of its row and no other, and any other failure is
passed on. -/
theorem error_eq_iff (purpose : Purpose) (e : BackendError) :
    (∀ row ∈ RecognisedFailure.table, purpose.error e = row.error ↔ row.Matches purpose e) ∧
      (purpose.error e = .backend e ↔ ¬ purpose.Recognises e) := by
  rw [error, recognises_iff]
  cases hrecognise : purpose.recognise? e with
  | none =>
      refine ⟨fun row hrow => ?_, by simp⟩
      have hmatches : ¬ row.Matches purpose e := by
        intro hmatches
        have hsome := recognises_iff.mp ⟨row, hrow, hmatches⟩
        rw [hrecognise] at hsome
        cases hsome
      simp [hmatches, (RecognisedFailure.error_ne_backend hrow e).symm]
  | some found =>
      obtain ⟨code, d⟩ := found
      obtain ⟨hfound, hcode⟩ := recognise?_eq_some_iff.mp hrecognise
      refine ⟨fun row hrow => ⟨fun herror => ?_, ?_⟩, ?_⟩
      · obtain rfl := RecognisedFailure.error_inj hfound hrow herror
        exact ⟨rfl, hcode⟩
      · rintro ⟨rfl, hrowCode⟩
        have hsame := recognise?_eq_some_iff.mpr ⟨hrow, hrowCode⟩
        rw [hrecognise] at hsame
        cases hsame
        rfl
      · have hpassed := RecognisedFailure.error_ne_backend hfound e
        simpa using hpassed

end Purpose

/-! ### Reports -/

namespace Exchange

/-- The failure that has to be reported, if there is one. -/
def failure? (x : Exchange) : Option StatementFailure :=
  match x.response with
  | .ok _ => none
  | .error e =>
    if x.step.purpose.Recognises e then none else some ⟨x.step.purpose.heading, x.statement, e⟩

/-- What a silent sink leaves in the log. -/
def notices (x : Exchange) : List LogEvent := x.events fun _ => []

theorem events_eq (diagnostics : Diagnostics) (x : Exchange) :
    x.events diagnostics = x.notices ++ x.failure?.toList.flatMap diagnostics := by
  obtain ⟨step, s, response⟩ := x
  unfold notices events failure? Step.events
  cases response with
  | ok result => simp [Purpose.events]
  | error e =>
      rw [List.append_assoc]
      congr 1
      simp only [Purpose.recognises_iff, Purpose.events]
      cases step.purpose.recognise? e <;> simp

end Exchange

namespace Session

/-- A failed statement of a session becomes the error of the row of the table that it matches, and
is passed on as it is if it matches none.  The sink gets the failures that match none, once each and
in order, and nothing else. -/
theorem reports_each_unrecognised_failure_once (diagnostics : Diagnostics) (flags : Flags)
    (steps : List Step) (responses : List Response) (log : List LogEvent) :
    let ran := (run (.scripted diagnostics flags) steps).run ⟨⟨responses, []⟩, log⟩
    let xs := exchanges flags steps responses
    xs.map Exchange.statement = ran.2.connection.executed ∧
      ran.2.log =
        log ++ xs.flatMap (fun x => x.notices ++ x.failure?.toList.flatMap diagnostics) ∧
      ∀ k x, xs[k]? = some x →
        x.response = responses.getD k .default ∧
        ∃ before rest, steps = before ++ x.step :: rest ∧ (sent flags before).length = k ∧
          x.step.statement? flags = .ok (some x.statement) ∧
          ∀ e, x.response = .error e → ∃ d, ran.1[before.length]? = some (.error d) ∧
            (∀ row ∈ RecognisedFailure.table, d = row.error ↔ row.Matches x.step.purpose e) ∧
            (d = .backend e ↔ ¬ x.step.purpose.Recognises e) := by
  rw [run_from_start]
  refine ⟨statement_exchanges flags steps responses, ?_, fun k x hx => ?_⟩
  · rw [funext (Exchange.events_eq diagnostics)]
  · obtain ⟨hresponse, before, rest, hsteps, hplace, hs, houtcome⟩ :=
      exists_outcome_of_getElem?_exchanges flags hx
    refine ⟨hresponse, before, rest, hsteps, hplace, hs, fun e he => ?_⟩
    rw [he] at houtcome
    exact ⟨x.step.purpose.error e, houtcome, x.step.purpose.error_eq_iff e⟩

/-- The same failure of an insertion and of a text. -/
theorem reports_each_unrecognised_failure_once_raw :
    let e : BackendError := ⟨some "23505", "duplicate key", none⟩
    let inserted : Step := .table "t" (.insert [[("a", .nat 1)]] [])
    let text : Statement := ⟨"INSERT INTO t SELECT $1", [.nat 1]⟩
    let ran := (run (.scripted (Logging.diagnostics ⟨.errors, true⟩) {}) [inserted, .raw text]).run
      ⟨⟨[.error e, .error e], []⟩, []⟩
    ran.2.log = [.classified "Error in insert:" "23505" e (.duplicateKey .insert),
        .statementFailed "Error in dbs.raw" text.sql (some text.params) e] ∧
      (∃ d, ran.1[0]? = some (.error d) ∧ d = .duplicateKey .insert) ∧
      ∃ d, ran.1[1]? = some (.error d) ∧ d = .backend e := by
  intro e inserted text ran
  obtain ⟨-, hlog, hplaces⟩ := reports_each_unrecognised_failure_once
    (Logging.diagnostics ⟨.errors, true⟩) {} [inserted, .raw text] [.error e, .error e] []
  refine ⟨hlog, ?_, ?_⟩
  · obtain ⟨-, before, rest, hsteps, -, -, hfailed⟩ := hplaces 0 ⟨inserted, _, .error e⟩ rfl
    obtain ⟨d, hd, hrows, -⟩ := hfailed e rfl
    have hrow := hrows ⟨.insert, "23505", .duplicateKey .insert⟩ (.head _)
    cases before with
    | nil => exact ⟨d, hd, hrow.mpr ⟨rfl, rfl⟩⟩
    | cons first before =>
        have hlater := (List.cons.inj hsteps).2
        simp [List.singleton_eq_append_iff, inserted] at hlater
  · obtain ⟨-, before, rest, hsteps, -, -, hfailed⟩ := hplaces 1 ⟨.raw text, _, .error e⟩ rfl
    obtain ⟨d, hd, -, hpassed⟩ := hfailed e rfl
    have hnone : ¬ Purpose.raw.Recognises e := by decide
    match before, hsteps with
    | [], hsteps => simp [inserted] at hsteps
    | [first], _ => exact ⟨d, hd, hpassed.mpr hnone⟩
    | first :: second :: before, hsteps => simp at hsteps

end Session

end PgCollections
