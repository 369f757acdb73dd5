import PgCollections.Diagnostics
import PgCollections.Gateway
import PgCollections.Schema.Table
import PgCollections.Sql.Rows

/-!
# Databases

A `Database` runs operations on tables through a gateway. Each operation builds its statement anew,
sends at most that one statement, and gives a recognised failure its own error. Other failures are
passed on as they are and reported.
-/

namespace PgCollections

/-- What a statement is executed for. -/
inductive Purpose where
  | find
  | insert
  | update
  | remove
  | drop
  | create
  | raw
deriving DecidableEq

namespace Purpose

/-- How log events about the statement begin. -/
def heading : Purpose → String
  | find => "Error in toArray:"
  | insert => "Error in insert:"
  | update => "Error in update:"
  | remove => "Error in remove:"
  | drop => "Error in drop:"
  | create => "Error in createCollection:"
  | raw => "Error in dbs.raw"

/-- The error that a SQLSTATE code means, where it means one. -/
def classify? (purpose : Purpose) (code : String) : Option DbError :=
  match purpose with
  | insert =>
    if code = SqlState.uniqueViolation then some (.duplicateKey .insert)
    else if code = SqlState.foreignKeyViolation then some .constraintViolation
    else none
  | update => if code = SqlState.uniqueViolation then some (.duplicateKey .update) else none
  | remove => if code = SqlState.foreignKeyViolation then some .referentialIntegrity else none
  | find | drop | create | raw => none

/-- The recognised failure with its code. -/
def recognise? (purpose : Purpose) (e : BackendError) : Option (String × DbError) := do
  let code ← e.code
  return (code, ← purpose.classify? code)

end Purpose

structure Database (σ : Type) where
  gateway : Gateway σ
  diagnostics : Diagnostics := Logging.diagnostics {}
  flags : Flags := {}

namespace Database

variable {σ : Type}

def ofConfig (gateway : Gateway σ) (config : PgConfig) : Database σ :=
  ⟨gateway, config.logging.diagnostics, config.flags⟩

/-- Reports a failure that is passed on. -/
def report (db : Database σ) (purpose : Purpose) (statement : Statement) (e : BackendError) :
    Action σ Unit :=
  recordAll (db.diagnostics ⟨purpose.heading, statement, e⟩)

/-- Executes a statement. -/
def execute (db : Database σ) (purpose : Purpose) (statement : Statement) :
    Action σ (Except DbError QueryResult) := do
  match ← db.gateway.execute statement with
  | .ok result => return .ok result
  | .error e =>
    match purpose.recognise? e with
    | some (code, domain) =>
      record (.classified purpose.heading code e domain)
      return .error domain
    | none =>
      db.report purpose statement e
      return .error (.backend e)

/-- Executes the statement if it could be built. -/
def executeBuilt (db : Database σ) (purpose : Purpose) :
    Except DbError Statement → Action σ (Except DbError QueryResult)
  | .ok statement => db.execute purpose statement
  | .error e => return .error e

/-- The rows of a selection. -/
def toArray (db : Database σ) (selection : Statement) : Action σ (Except DbError (List Row)) := do
  return (← db.execute .find selection).map QueryResult.rows

/-- Inserts rows and gives the returned columns of each. Without rows nothing is executed. -/
def insert (db : Database σ) (table : String) (rows : List Row)
    (returning : List String := ["id"]) : Action σ (Except DbError (List Row)) := do
  match Statement.insert db.flags table rows returning with
  | .ok none => return .ok []
  | .ok (some statement) => return (← db.execute .insert statement).map QueryResult.rows
  | .error e => return .error e

/-- Changes the rows of a filter and gives their number. -/
def update (db : Database σ) (table : String) (filter : Filter) (changes : Row) :
    Action σ (Except DbError Nat) := do
  let statement := Statement.update db.flags table filter changes
  return (← db.executeBuilt .update statement).map QueryResult.rowCount

/-- Deletes the rows of a filter and gives their number. -/
def remove (db : Database σ) (table : String) (filter : Filter) :
    Action σ (Except DbError Nat) := do
  return (← db.executeBuilt .remove (Statement.delete table filter)).map QueryResult.rowCount

def drop (db : Database σ) (table : String) : Action σ (Except DbError Unit) := do
  return (← db.execute .drop (Statement.dropTable table)).map fun _ => ()

/-- Creates a table. -/
def create (db : Database σ) (name : String) (indexes : List Index) (fields : List FieldDef)
    (tablePrefix : Option String) : Action σ (Except DbError Unit) := do
  match ← db.execute .create (Statement.createTable name indexes fields tablePrefix) with
  | .ok _ =>
    record (.tableCreated name)
    return .ok ()
  | .error e => return .error e

/-- Executes any text. -/
def raw (db : Database σ) (statement : Statement) : Action σ (Except DbError QueryResult) :=
  db.execute .raw statement

def shutdown (db : Database σ) : Action σ Unit := db.gateway.close

end Database

/-! ### Inspection texts -/

def Flags.debug (flags : Flags) : String :=
  "Flags \x7b array_as_json: " ++ toString flags.arrayAsJson ++ ", ids_as_big_int: " ++
    toString flags.idsAsBigInt ++ " \x7d"

def Database.debug {σ : Type} (db : Database σ) : String :=
  "Dbs \x7b flags: " ++ db.flags.debug ++ ", .. \x7d"

/-- The inspection text of a selection. -/
def Statement.debug (statement : Statement) : String :=
  "Cursor \x7b sql: " ++ debugQuote statement.sql ++ ", params: " ++
    Json.debugList statement.params ++ " \x7d"

end PgCollections
