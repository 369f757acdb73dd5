import PgCollections.Proofs.Database.Failure
import PgCollections.Proofs.Postgres.Reports

/-! # What the log discloses of parameters

A statement that the server describes can fail before it is executed: the values have the wrong
number, or one of them does not convert (`Description.FailsAt`).  Nothing is reported about such a
failure but the one record of `Step.records_of_failsAt`.  The parameters are shown in it only if the
settings ask for that, but the text of the error is always in it, and the error of a value that does
not convert quotes the value.

`Step.records_eq_iff` compares two steps that fail at the same place and with the same code: their
records agree if and only if the errors quote the same text and the parameters, where shown, look
the same.  So the log discloses a value that does not convert, whether parameters are shown or not
(`Step.records_disclose`). -/

namespace PgCollections

/-- The values do not convert for the placeholders: there are too many or too few, or the first one
that is refused is at the given place. -/
inductive Description.FailsAt (description : Description) (values : List Json) :
    Option Nat → PgError → Prop
  | miscounted (h : description.parameters.length ≠ values.length) :
      FailsAt description values none (.countMismatch values.length description.parameters.length)
  | refused {i : Nat} {type : PgType} {v : Json} {e : PgError}
      (hcount : description.parameters.length = values.length)
      (htype : description.parameters[i]? = some type) (hv : values[i]? = some v)
      (hbefore : ∀ j < i, ∀ (t : PgType) (w : Json), description.parameters[j]? = some t →
        values[j]? = some w → ∃ datum, t.convert w = .ok datum)
      (he : type.convert v = .error e) : FailsAt description values (some i) e

namespace Description.FailsAt

variable {description : Description} {values values' : List Json} {place : Option Nat}
  {e e' : PgError}

theorem cause?_eq_none (h : description.FailsAt values place e) : e.cause? = none := by
  cases h with
  | miscounted => rfl
  | refused _ _ _ _ he => exact (PgType.refused_of_convert he).cause?_eq_none

/-- The messages of two failures at the same place and with the same code differ in what they quote
only. -/
theorem message_eq_iff (h : description.FailsAt values place e)
    (h' : description.FailsAt values' place e') (hlength : values.length = values'.length)
    (hcode : e.code? = e'.code?) : e.message = e'.message ↔ e.quoted = e'.quoted := by
  cases h with
  | miscounted => cases h' with
    | miscounted => simp [hlength]
  | refused _ htype _ _ he => cases h' with
    | refused _ htype' _ _ he' =>
        obtain rfl := Option.some.inj (htype.symm.trans htype')
        exact (PgType.refused_of_convert he).message_eq_iff (PgType.refused_of_convert he') hcode

/-- A value that is refused is quoted. -/
theorem quoted_eq {i : Nat} {v : Json} (h : description.FailsAt values (some i) e)
    (hv : values[i]? = some v) :
    e.code? = some "22P02" ∧ e.quoted = v.text ∨
      ∃ n, e.code? = some "22003" ∧ Scalar.readInt? v = some n ∧ e.quoted = toString n := by
  cases h with
  | refused _ _ hv' _ he =>
      obtain rfl := Option.some.inj (hv.symm.trans hv')
      cases PgType.refused_of_convert he with
      | invalid => exact .inl ⟨rfl, rfl⟩
      | outOfRange hread => exact .inr ⟨_, rfl, hread, rfl⟩

end Description.FailsAt

/-- The failures in which the driver has no part are passed on, whatever the statement was for. -/
theorem Purpose.recognise?_toBackend (purpose : Purpose) {e : PgError} (h : e.cause? = none) :
    purpose.recognise? e.toBackend = none := by
  refine Option.eq_none_iff_forall_ne_some.mpr ?_
  rintro ⟨code, d⟩ hrecognised
  obtain ⟨hrow, hcode⟩ := recognise?_eq_some_iff.mp hrecognised
  cases e with
  | driver => cases h
  | countMismatch | invalidInput | outOfRange =>
      obtain rfl := Option.some.inj hcode
      simp [RecognisedFailure.table, SqlState.protocolViolation,
        SqlState.invalidTextRepresentation, SqlState.numericValueOutOfRange] at hrow

namespace PgGateway

variable {τ : Type} {gateway : PgGateway τ} {statement : Statement} {description : Description}
  {ready : τ} {place : Option Nat} {e : PgError}

theorem course_of_failsAt {start : τ}
    (hready : gateway.server.Describes statement.sql start description ready)
    (h : description.FailsAt statement.params place e) :
    gateway.course statement start = ⟨.error e.toBackend, ready, []⟩ := by
  cases h with
  | miscounted hcount => exact course_of_miscounted hready hcount
  | refused hcount htype hv hbefore he =>
      exact course_of_unconverted hready hcount (Argument.ofValues_eq_error hbefore htype hv he)

theorem run_execute_of_failsAt {world : World (PgSession τ)}
    (hready : gateway.server.Describes statement.sql world.connection.server description ready)
    (h : description.FailsAt statement.params place e) :
    (gateway.execute statement).run world =
      (.error e.toBackend, { world with connection.server := ready }) := by
  rw [run_execute, course_of_failsAt hready h]
  dsimp only
  rw [lost?_toBackend h.cause?_eq_none]
  simp [left]

end PgGateway

namespace Step

variable {τ : Type}

/-- The records that are logged while the step is carried out. -/
def records {σ : Type} (db : Database σ) (step : Step) (world : World σ) :
    List (List (String × String)) :=
  (((step.run db).run world).2.log.drop world.log.length).map LogEvent.fields

theorem events_error (diagnostics : Diagnostics) (step : Step) (s : Statement) (e : BackendError) :
    step.events diagnostics s (.error e) = step.purpose.events diagnostics s (.error e) := by
  cases step <;> rfl

variable (gateway : PgGateway τ) {config : PgConfig} (step step' : Step) {s s' : Statement}
  (world : World (PgSession τ)) {description : Description} {ready : τ} {place : Option Nat}
  {e e' : PgError}

/-- A failure before the statement is executed leaves one record. -/
theorem records_of_failsAt (hlogs : config.logs = .errors)
    (hs : step.statement? config.flags = .ok (some s))
    (hready : gateway.server.Describes s.sql world.connection.server description ready)
    (hfails : description.FailsAt s.params place e) :
    step.records (.ofConfig gateway.toGateway config) world =
      [[("level", "ERROR"), ("message", step.purpose.heading), ("error", e.message),
        ("query", s.sql)] ++
          if config.logParams then [("params", Json.debugList s.params)] else []] := by
  have hflags : (Database.ofConfig gateway.toGateway config).flags = config.flags := rfl
  have hgateway : (Database.ofConfig gateway.toGateway config).gateway.execute s =
    gateway.execute s := rfl
  have hdiagnostics : (Database.ofConfig gateway.toGateway config).diagnostics =
    config.logging.diagnostics := rfl
  rw [records, run_eq, hflags, hs]
  dsimp only
  rw [hgateway, PgGateway.run_execute_of_failsAt hready hfails, hdiagnostics]
  dsimp only
  rw [List.drop_left, events_error, Purpose.events,
    step.purpose.recognise?_toBackend hfails.cause?_eq_none]
  simp only [Logging.diagnostics, PgConfig.logging, hlogs]
  cases config.logParams <;> rfl

/-- Two steps for the same purpose and with the same text, whose values fail at the same place and
with the same code, leave the same records if and only if the errors quote the same text and the
parameters, where they are shown, look the same.  A wrong number of values quotes nothing, and a
value that is refused is quoted by its text or as the number that is too large. -/
theorem records_eq_iff (hlogs : config.logs = .errors)
    (hpurpose : step.purpose = step'.purpose)
    (hs : step.statement? config.flags = .ok (some s))
    (hs' : step'.statement? config.flags = .ok (some s'))
    (hsql : s.sql = s'.sql) (hlength : s.params.length = s'.params.length)
    (hready : gateway.server.Describes s.sql world.connection.server description ready)
    (hfails : description.FailsAt s.params place e)
    (hfails' : description.FailsAt s'.params place e') (hcode : e.code? = e'.code?) :
    let db : Database (PgSession τ) := .ofConfig gateway.toGateway config
    (step.records db world = step'.records db world ↔
      e.quoted = e'.quoted ∧
        (config.logParams → Json.debugList s.params = Json.debugList s'.params)) ∧
    (place = none → e.quoted = "" ∧ e'.quoted = "") ∧
    ∀ (i : Nat) (v v' : Json), place = some i → s.params[i]? = some v →
      s'.params[i]? = some v' →
        (e.quoted = v.text ∧ e'.quoted = v'.text) ∨
          ∃ n n', Scalar.readInt? v = some n ∧ Scalar.readInt? v' = some n' ∧
            e.quoted = toString n ∧ e'.quoted = toString n' := by
  intro db
  refine ⟨?_, ?_, ?_⟩
  · rw [records_of_failsAt gateway step world hlogs hs hready hfails,
      records_of_failsAt gateway step' world hlogs hs' (hsql ▸ hready) hfails', hpurpose, hsql,
      ← hfails.message_eq_iff hfails' hlength hcode]
    cases config.logParams <;> simp
  · rintro rfl
    cases hfails
    cases hfails'
    exact ⟨rfl, rfl⟩
  · rintro i v v' rfl hv hv'
    rcases hfails.quoted_eq hv with ⟨hinvalid, hquoted⟩ | ⟨n, hrange, hn, hquoted⟩
    · rcases hfails'.quoted_eq hv' with ⟨-, hquoted'⟩ | ⟨n', hrange', -, -⟩
      · exact .inl ⟨hquoted, hquoted'⟩
      · rw [hinvalid, hrange'] at hcode
        exact absurd (Option.some.inj hcode) (by decide)
    · rcases hfails'.quoted_eq hv' with ⟨hinvalid', -⟩ | ⟨n', -, hn', hquoted'⟩
      · rw [hrange, hinvalid'] at hcode
        exact absurd (Option.some.inj hcode) (by decide)
      · exact .inr ⟨n, n', hn, hn', hquoted, hquoted'⟩

/-- A server that knows one statement, with a placeholder of the given type. -/
def scriptFor (type : PgType) : ServerScript where
  pool := { size := 1 }
  description := .ok { parameters := [type] }

theorem failsAt_zero {type : PgType} {v : Json} {e : PgError} (h : type.convert v = .error e) :
    Description.FailsAt { parameters := [type] } [v] (some 0) e :=
  .refused rfl rfl rfl (fun _ hj => absurd hj (Nat.not_lt_zero _)) h

/-- Two ways to write a number that is too large leave the same record if parameters are not shown,
and different records if they are. -/
theorem records_eq_iff_tooLarge :
    let gateway : PgGateway ServerScript := .ofPool .scripted false
    let world : World (PgSession ServerScript) := ⟨⟨scriptFor (.int .four), []⟩, []⟩
    let number : Step := .raw ⟨"UPDATE t", [.int 1099511627776]⟩
    let text : Step := .raw ⟨"UPDATE t", [.string "1099511627776"]⟩
    let hidden : PgConfig := { logs := .errors, logParams := false }
    let shown : PgConfig := { logs := .errors, logParams := true }
    number.records (.ofConfig gateway.toGateway hidden) world =
        text.records (.ofConfig gateway.toGateway hidden) world ∧
      number.records (.ofConfig gateway.toGateway shown) world ≠
        text.records (.ofConfig gateway.toGateway shown) world := by
  intro gateway world number text hidden shown
  have hready : gateway.server.Describes "UPDATE t" (scriptFor (.int .four))
      { parameters := [.int .four] } (scriptFor (.int .four)) := ⟨scriptFor (.int .four), rfl, rfl⟩
  have hnumber : (PgType.int .four).convert (.int 1099511627776) =
    .error (.outOfRange (.int .four) 1099511627776) := rfl
  have htext : (PgType.int .four).convert (.string "1099511627776") =
    .error (.outOfRange (.int .four) 1099511627776) := rfl
  have hiff := fun (config : PgConfig) (hlogs : config.logs = .errors) =>
    records_eq_iff gateway number text world hlogs rfl rfl rfl rfl rfl hready
      (failsAt_zero hnumber) (failsAt_zero htext) rfl
  constructor
  · exact (hiff hidden rfl).1.mpr ⟨rfl, nofun⟩
  · intro hrecords
    have hshown := ((hiff shown rfl).1.mp hrecords).2 rfl
    exact absurd hshown (by decide +kernel)

/-- A text that is no number is in the record, although parameters are not shown. -/
theorem records_disclose :
    let gateway : PgGateway ServerScript := .ofPool .scripted false
    let description : Description := { parameters := [.int .four] }
    let db : Database (PgSession ServerScript) :=
      .ofConfig gateway.toGateway { logs := .errors, logParams := false }
    let world : World (PgSession ServerScript) := ⟨⟨scriptFor (.int .four), []⟩, []⟩
    let alpha : Statement := ⟨"UPDATE t", [.string "alpha"]⟩
    let bravo : Statement := ⟨"UPDATE t", [.string "bravo"]⟩
    (∃ ready, gateway.server.Describes "UPDATE t" world.connection.server description ready) ∧
      (∃ e e', description.FailsAt alpha.params (some 0) e ∧
        description.FailsAt bravo.params (some 0) e' ∧ e.code? = e'.code?) ∧
      (Step.raw alpha).records db world = [[("level", "ERROR"), ("message", "Error in dbs.raw"),
        ("error", "invalid input syntax for type int4: \"alpha\""), ("query", "UPDATE t")]] ∧
      (Step.raw alpha).records db world ≠ (Step.raw bravo).records db world := by
  intro gateway description db world alpha bravo
  have halpha : description.FailsAt alpha.params (some 0)
    (.invalidInput (.int .four) (.string "alpha")) := failsAt_zero rfl
  have hbravo : description.FailsAt bravo.params (some 0)
    (.invalidInput (.int .four) (.string "bravo")) := failsAt_zero rfl
  have hready : gateway.server.Describes "UPDATE t" world.connection.server description
    (scriptFor (.int .four)) := ⟨scriptFor (.int .four), rfl, rfl⟩
  have hrecords : (Step.raw alpha).records db world = _ :=
    records_of_failsAt gateway (.raw alpha) world rfl rfl hready halpha
  have hrecords' : (Step.raw bravo).records db world = _ :=
    records_of_failsAt gateway (.raw bravo) world rfl rfl hready hbravo
  rw [hrecords, hrecords']
  exact ⟨⟨_, hready⟩, ⟨_, _, halpha, hbravo, rfl⟩, by decide +kernel, by decide +kernel⟩

end Step

end PgCollections
