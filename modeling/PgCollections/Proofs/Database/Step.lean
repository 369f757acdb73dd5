import PgCollections.Database
import PgCollections.Proofs.Sql.Statement

/-! # Steps

A `Step` is an operation on a database.  `Step.statement?` is the statement that a step needs; only
a `Valid` step has one (`Step.valid_iff`), and its placeholders are numbered from 1.

`Step.run_eq` says what a step does on any database: it sends its statement and goes by the response
of the gateway, or it leaves the state as it is.  `Step.run_scripted` is the case of a gateway that
answers from a script. -/

namespace PgCollections

open Sql

/-- What a gateway answers. -/
abbrev Response := Except BackendError QueryResult

/-- The response when the script has none left. -/
def Response.default : Response := .ok {}

/-- An action goes on with what the one before it gave, in the state it left. -/
theorem Action.run_seq {σ α β : Type} {act : Action σ α} {world after : World σ} {a : α}
    (next : α → Action σ β) (h : act.run world = (a, after)) :
    (act >>= next).run world = (next a).run after := by
  rw [StateT.run_bind, h]
  rfl

/-- What an action gives can be read as something else. -/
theorem Action.run_map {σ ε α β : Type} {act : Action σ (Except ε α)} {world after : World σ}
    {x : Except ε α} (f : α → β) (h : act.run world = (x, after)) :
    (do return (← act).map f : Action σ (Except ε β)).run world = (x.map f, after) :=
  Action.run_seq _ h

/-! ### Statements -/

namespace Purpose

/-- The error that a failure of the database becomes. -/
def error (purpose : Purpose) (e : BackendError) : DbError :=
  match purpose.recognise? e with
  | some (_, domain) => domain
  | none => .backend e

/-- What is logged about the response to a statement. -/
def events (diagnostics : Diagnostics) (purpose : Purpose) (s : Statement) :
    Response → List LogEvent
  | .ok _ => []
  | .error e =>
    match purpose.recognise? e with
    | some (code, domain) => [.classified purpose.heading code e domain]
    | none => diagnostics ⟨purpose.heading, s, e⟩

end Purpose

namespace World

/-- The next response of the script. -/
def response (world : World Script) : Response :=
  world.connection.responses.headD Response.default

/-- The world after a statement was sent. -/
def sent (world : World Script) (s : Statement) : World Script :=
  { world with
    connection := ⟨world.connection.responses.tail, world.connection.executed ++ [s]⟩ }

/-- The world after events were logged. -/
def logged (world : World Script) (events : List LogEvent) : World Script :=
  { world with log := world.log ++ events }

end World

namespace Database

/-- A database whose gateway answers from a script. -/
def scripted (diagnostics : Diagnostics) (flags : Flags) : Database Script :=
  ⟨.scripted, diagnostics, flags⟩

theorem run_gateway (diagnostics : Diagnostics) (flags : Flags) (s : Statement)
    (world : World Script) :
    ((scripted diagnostics flags).gateway.execute s).run world =
      (world.response, world.sent s) := by
  obtain ⟨⟨responses, executed⟩, log⟩ := world
  cases responses <;> rfl

variable {σ : Type} (db : Database σ)

/-- A statement gets the response of the gateway; a failure is logged as its purpose says. -/
theorem run_execute (purpose : Purpose) {s : Statement} {world after : World σ}
    {response : Response} (h : (db.gateway.execute s).run world = (response, after)) :
    (db.execute purpose s).run world = (response.mapError purpose.error,
      { after with log := after.log ++ purpose.events db.diagnostics s response }) := by
  rw [execute, Action.run_seq _ h]
  cases response with
  | ok result =>
      dsimp only [Purpose.events]
      rw [List.append_nil]
      rfl
  | error e =>
      dsimp only [Except.mapError, Purpose.error, Purpose.events]
      cases purpose.recognise? e <;> rfl

/-- The statement is sent if it could be built, and the answer is read off the result. -/
theorem run_executeBuilt {α β : Type} (f : QueryResult → α) (g : α → β) (purpose : Purpose)
    (x : Except DbError Statement) (world : World σ) :
    (do return (← (do return (← db.executeBuilt purpose x).map f :
        Action σ (Except DbError α))).map g : Action σ (Except DbError β)).run world =
      match x with
      | .ok s =>
        let (response, after) := (db.gateway.execute s).run world
        ((response.mapError purpose.error).map (g ∘ f),
          { after with log := after.log ++ purpose.events db.diagnostics s response })
      | .error e => (.error e, world) := by
  cases x with
  | error e => rfl
  | ok s =>
      rcases hgateway : (db.gateway.execute s).run world with ⟨response, after⟩
      have hexecute := db.run_execute purpose hgateway
      rw [executeBuilt, Action.run_map _ (Action.run_map _ hexecute)]
      dsimp only
      rw [hgateway]
      cases response <;> rfl

end Database

/-! ### Steps -/

/-- What an operation gives. -/
inductive Answer where
  | rows (rows : List Row)
  | count (n : Nat)
  | done
  | result (result : QueryResult)

/-- An operation on a database. -/
inductive Step where
  | table (name : String) (op : Operation)
  | create (name : String) (indexes : List Index) (fields : List FieldDef)
    (tablePrefix : Option String)
  | raw (statement : Statement)

/-- The filter has a text. -/
def Filter.Compiles (filter : Filter) : Prop :=
  ∃ sql bound, filter.predicate.runFrom {} = (.ok sql, bound)

/-- The inputs are such that the operation needs a statement. -/
def Operation.Valid : Operation → Prop
  | find filter _ | remove filter => filter.Compiles
  | findByIds filter _ => filter.arraysAsOneOf.Compiles
  | insert rows _ => ∃ first rest, rows = first :: rest ∧ first ≠ []
  | update filter changes => changes ≠ [] ∧ filter.Compiles
  | drop => True

namespace Step

/-- Reads the rows of a selection, if it could be built. -/
def readSelection {σ : Type} (db : Database σ) :
    Except DbError Statement → Action σ (Except DbError Answer)
  | .ok selection => do return (← db.toArray selection).map .rows
  | .error e => return .error e

/-- Carries out the operation. -/
def run {σ : Type} (db : Database σ) : Step → Action σ (Except DbError Answer)
  | table name (.find filter options) => readSelection db (Statement.select name filter options)
  | table name (.findByIds filter options) =>
    readSelection db (Statement.selectByIds name filter options)
  | table name (.insert rows returning) => do
    return (← db.insert name rows returning).map .rows
  | table name (.update filter changes) => do return (← db.update name filter changes).map .count
  | table name (.remove filter) => do return (← db.remove name filter).map .count
  | table name .drop => do return (← db.drop name).map fun _ => .done
  | create name indexes fields tablePrefix => do
    return (← db.create name indexes fields tablePrefix).map fun _ => .done
  | raw statement => do return (← db.raw statement).map .result

def purpose : Step → Purpose
  | table _ (.find ..) | table _ (.findByIds ..) => .find
  | table _ (.insert ..) => .insert
  | table _ (.update ..) => .update
  | table _ (.remove _) => .remove
  | table _ .drop => .drop
  | create .. => .create
  | raw _ => .raw

/-- The statement that the operation needs, if any. -/
def statement? (flags : Flags) : Step → Except DbError (Option Statement)
  | table name op => op.statement? flags name
  | create name indexes fields tablePrefix =>
    .ok (some (.createTable name indexes fields tablePrefix))
  | raw statement => .ok (some statement)

def Valid : Step → Prop
  | table _ op => op.Valid
  | create .. | raw _ => True

/-- What the operation gives for a result. -/
def answer : Step → QueryResult → Answer
  | table _ (.find ..), result | table _ (.findByIds ..), result
  | table _ (.insert ..), result => .rows result.rows
  | table _ (.update ..), result | table _ (.remove _), result => .count result.rowCount
  | table _ .drop, _ | create .., _ => .done
  | raw _, result => .result result

/-- What the operation gives for the response to its statement. -/
def reply (step : Step) (response : Response) : Except DbError Answer :=
  (response.mapError step.purpose.error).map step.answer

/-- What the operation gives when the response to its statement, if it needs one, is the given. -/
def outcome (flags : Flags) (step : Step) (response : Response) : Except DbError Answer :=
  match step.statement? flags with
  | .ok (some _) => step.reply response
  | .ok none => .ok (.rows [])
  | .error e => .error e

/-- What is logged about the response. -/
def events (diagnostics : Diagnostics) (step : Step) (s : Statement) (response : Response) :
    List LogEvent :=
  (match step, response with
    | create name .., .ok _ => [.tableCreated name]
    | _, _ => []) ++ step.purpose.events diagnostics s response

theorem readSelection_eq {σ : Type} (db : Database σ) (x : Except DbError Statement) :
    readSelection db x = (do
      return (← (do return (← db.executeBuilt .find x).map QueryResult.rows :
        Action σ (Except DbError (List Row)))).map .rows) := by
  cases x <;> rfl

/-- A step sends the statement that it needs, and gets the response of the gateway. -/
theorem run_eq {σ : Type} (db : Database σ) (step : Step) (world : World σ) :
    (step.run db).run world =
      match step.statement? db.flags with
      | .ok (some s) =>
        let (response, after) := (db.gateway.execute s).run world
        (step.reply response,
          { after with log := after.log ++ step.events db.diagnostics s response })
      | .ok none => (.ok (.rows []), world)
      | .error e => (.error e, world) := by
  -- What an operation does with its statement, if that could be built.
  have hbuilt := @Database.run_executeBuilt σ db
  cases step with
  | table name op => cases op with
    | find filter options =>
        rw [run, readSelection_eq, hbuilt, statement?, Operation.statement?]
        cases Statement.select name filter options <;> rfl
    | findByIds filter options =>
        rw [run, readSelection_eq, hbuilt, statement?, Operation.statement?]
        cases Statement.selectByIds name filter options <;> rfl
    | insert rows returning =>
        rw [run, Database.insert, statement?, Operation.statement?]
        cases Statement.insert db.flags name rows returning with
        | error e => rfl
        | ok built => cases built with
          | none => rfl
          | some s => exact hbuilt QueryResult.rows Answer.rows .insert (.ok s) world
    | update filter changes =>
        rw [run, Database.update, hbuilt, statement?, Operation.statement?]
        cases Statement.update db.flags name filter changes <;> rfl
    | remove filter =>
        rw [run, Database.remove, hbuilt, statement?, Operation.statement?]
        cases Statement.delete name filter <;> rfl
    | drop =>
        exact hbuilt (fun _ => ()) (fun _ => Answer.done) .drop (.ok (.dropTable name)) world
  | create name indexes fields tablePrefix =>
      rcases hgateway : (db.gateway.execute
        (.createTable name indexes fields tablePrefix)).run world with ⟨response, after⟩
      rw [run, Database.create, bind_assoc, Action.run_seq _ (db.run_execute .create hgateway)]
      dsimp only [statement?]
      rw [hgateway]
      cases response with
      | ok result =>
          dsimp only [events, Purpose.events]
          rw [List.append_nil]
          rfl
      | error e => rfl
  | raw s =>
      rcases hgateway : (db.gateway.execute s).run world with ⟨response, after⟩
      rw [run, Database.raw, Action.run_map _ (db.run_execute .raw hgateway)]
      dsimp only [statement?]
      rw [hgateway]
      rfl

variable (diagnostics : Diagnostics) (flags : Flags)

/-- A step sends the statement that it needs, and takes the next response of a script. -/
theorem run_scripted (step : Step) (world : World Script) :
    (step.run (.scripted diagnostics flags)).run world =
      match step.statement? flags with
      | .ok (some s) => (step.reply world.response,
          (world.sent s).logged (step.events diagnostics s world.response))
      | .ok none => (.ok (.rows []), world)
      | .error e => (.error e, world) := by
  have hflags : (Database.scripted diagnostics flags).flags = flags := rfl
  rw [run_eq, hflags]
  match step.statement? flags with
  | .ok (some s) =>
      dsimp only
      rw [Database.run_gateway]
      rfl
  | .ok none | .error e => rfl

/-- What an action does to the script when a step consists of it: the step's statement is sent, or
the script is left as it is. -/
theorem connection_of_run {α : Type} {step : Step} {act : Action Script (Except DbError α)}
    {f : α → Answer}
    (hact : step.run (.scripted diagnostics flags) = do return (← act).map f)
    (world : World Script) :
    (act.run world).2.connection =
      match step.statement? flags with
      | .ok (some s) => (world.sent s).connection
      | _ => world.connection := by
  rcases hrun : act.run world with ⟨x, after⟩
  have hstep := step.run_scripted diagnostics flags world
  rw [hact, Action.run_map f hrun] at hstep
  match step.statement? flags, hstep with
  | .ok (some s), hstep | .ok none, hstep | .error e, hstep =>
      obtain ⟨-, rfl⟩ := Prod.mk.inj hstep
      rfl

end Step

/-! ### Valid steps -/

theorem Filter.compiles_iff (filter : Filter) : filter.Compiles ↔ filter.fault? = none := by
  unfold Compiles
  rw [runFrom_predicate, Parts.compiled, ← fault?]
  cases filter.fault? <;> simp

theorem Filter.compiles_iff_checked {α : Type} (filter : Filter) (a : α) :
    filter.Compiles ↔ ∃ a', filter.checked a = .ok a' := by
  simp [compiles_iff, checked_eq_ok_iff]

/-- The placeholders in the text are numbered from 1, with one for each parameter. -/
def Statement.Numbered (s : Statement) : Prop :=
  ∃ ts, lex s.sql.toList = some ts ∧
    ts.filterMap Token.slot? = List.range' 1 s.params.length

theorem Operation.numbered_of_statement? {flags : Flags} {table : String} {op : Operation}
    {s : Statement} (h : op.statement? flags table = .ok (some s)) : s.Numbered := by
  obtain rfl := statement?_eq h
  have hpassage := op.passage_tokens flags table
  exact ⟨op.tokens table, lex_text hpassage.separated, hpassage.slots⟩

theorem Operation.exists_some_map_iff (x : Except DbError Statement) :
    (∃ s, (some <$> x : Except DbError (Option Statement)) = .ok (some s)) ↔ ∃ s, x = .ok s := by
  cases x <;> simp [Functor.map, Except.map]

theorem Operation.valid_iff (flags : Flags) (table : String) (op : Operation) :
    op.Valid ↔ ∃ s, op.statement? flags table = .ok (some s) := by
  cases op with
  | find filter options =>
      rw [statement?, exists_some_map_iff, Statement.select_eq]
      exact filter.compiles_iff_checked _
  | findByIds filter options =>
      rw [statement?, exists_some_map_iff, Statement.selectByIds, Statement.select_eq]
      exact filter.arraysAsOneOf.compiles_iff_checked _
  | insert rows returning =>
      cases rows with
      | nil => simp [Valid, statement?, Statement.insert]
      | cons first rows =>
          by_cases hfirst : first = []
          · simp [Valid, statement?, Statement.insert, hfirst]
          · simp [Valid, statement?, Statement.insert_eq, hfirst]
  | update filter changes =>
      rw [statement?, exists_some_map_iff]
      by_cases hchanges : changes = []
      · simp [Valid, Statement.update, hchanges]
      · rw [Statement.update_eq flags table filter changes hchanges]
        simpa [Valid, hchanges] using filter.compiles_iff_checked _
  | remove filter =>
      rw [statement?, exists_some_map_iff, Statement.delete_eq]
      exact filter.compiles_iff_checked _
  | drop => simp [Valid, statement?]

theorem Step.valid_iff (flags : Flags) (step : Step) :
    step.Valid ↔ ∃ s, step.statement? flags = .ok (some s) := by
  cases step with
  | table name op => exact op.valid_iff flags name
  | create | raw => simp [Valid, statement?]

end PgCollections
