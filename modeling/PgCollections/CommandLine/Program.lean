import PgCollections.CommandLine.Arguments
import PgCollections.CommandLine.Table
import PgCollections.Config.Load
import PgCollections.Connection
import PgCollections.Json.Reader

/-!
# The command line program

`run` carries out a command line: it prints an answer, or one line about the first thing that went
wrong. With `--dry-run` a gateway answers that executes nothing, and the statement that reached it
is shown.
-/

namespace PgCollections.CommandLine

/-- What a run leaves behind: an exit code and the lines of the two outputs. -/
structure Outcome where
  exitCode : Nat := 0
  out : List String := []
  err : List String := []
deriving DecidableEq

/-- Where the program finds its configuration. -/
structure Environment where
  /-- The configuration file that the environment names. -/
  configFile : Option String := none
  /-- The configuration file that is used if none is named. -/
  defaultFile : String
  /-- The contents of a file, if there is such a file. -/
  contents : String → Option Bytes

inductive Failure where
  | database (e : DbError)
  | malformedFilter
  | unknownDirection (text : String)
  | deletesAll (table : String)
  | noConfiguration

def Failure.message : Failure → String
  | database e => e.message
  | malformedFilter => "malformed JSON"
  | unknownDirection text => "unknown sort direction '" ++ text ++ "'"
  | deletesAll table => "refusing to delete every row of '" ++ table ++ "' without --all"
  | noConfiguration => "no configuration found. Use --config or set PGDBS_CONFIG"

def Outcome.failed (e : Failure) (out err : List String) : Outcome :=
  ⟨1, out, err ++ ["Error: " ++ e.message]⟩

/-! ### Statements -/

def readFilter (text : String) : Except Failure Filter :=
  match Json.parse? text with
  | none => .error .malformedFilter
  | some v => (Filter.ofJson v).mapError .database

/-- What precedes the last colon and what follows it; without a colon the term is sorted
ascendingly. -/
def splitDirection (cs : List Char) : List Char × List Char :=
  match cs.reverse.dropWhile (· != ':') with
  | [] => (cs, Direction.asc.keyword.toList)
  | _ :: key => (key.reverse, (cs.reverse.takeWhile (· != ':')).reverse)

/-- A sort term: a key, and perhaps a colon and a direction in either case. -/
def readOrder (term : String) : Except Failure Order :=
  let (key, direction) := splitDirection term.toList
  let keyword := String.ofList (direction.map Char.toUpper)
  match Direction.ofKeyword? keyword with
  | some dir => .ok ⟨String.ofList key, dir⟩
  | none => .error (.unknownDirection keyword)

/-- A statement to be sent, unless there is something wrong with it, and what it is sent for. -/
structure Query where
  purpose : Purpose
  statement : Except Failure Statement

def findStatement (table filter : String) (limit offset : Option Nat) (order : List String) :
    Except Failure Statement := do
  let filter ← readFilter filter
  let order ← order.mapM readOrder
  (Statement.select table filter ⟨limit, offset, order⟩).mapError .database

def removeStatement (table filter : String) (all : Bool) : Except Failure Statement := do
  let filter ← readFilter filter
  if filter.isEmpty ∧ ¬ all then throw (.deletesAll table)
  (Statement.delete table filter).mapError .database

/-- Sends the statement of a query. -/
def Query.execute {σ : Type} (query : Query) (db : Database σ) :
    Action σ (Except Failure QueryResult) := do
  match query.statement with
  | .error e => return .error e
  | .ok statement => return (← db.execute query.purpose statement).mapError .database

/-! ### Output -/

/-- A statement with its parameters. -/
def statementLines (statement : Statement) : List String :=
  let bindings := statement.params.mapIdx fun i v => "  $" ++ toString (i + 1) ++ " = " ++ v.text
  "Generated SQL:" :: statement.sql ::
    if bindings.isEmpty then [] else "" :: "Bindings:" :: bindings

def rowLines (format : Format) (rows : List Row) : List String :=
  if rows.isEmpty then ["(no results)"]
  else
    match format with
    | .json => [(Json.array (rows.map .object)).pretty]
    | .table => tableLines rows ++ ["", toString rows.length ++ " row(s) returned"]

/-- What is printed about the result of a query. -/
def resultLines (format : Format) (purpose : Purpose) (result : QueryResult) : List String :=
  match purpose with
  | .find => rowLines format result.rows
  | _ => ["✓ " ++ toString result.rowCount ++ " rows affected"]

/-- The field types that are shown; texts go by two names. -/
def shownTypes : List FieldType :=
  [⟨.int, none, false⟩, ⟨.id, none, true⟩, ⟨.bool, none, false⟩, ⟨.float, none, false⟩,
    ⟨.text, none, false⟩, ⟨.text, none, false⟩, ⟨.time, none, false⟩, ⟨.bigInt, none, false⟩,
    ⟨.array .time, none, false⟩, ⟨.array .bigInt, none, false⟩, ⟨.array .int, none, false⟩,
    ⟨.array .id, none, false⟩]

def typeLine (left right : String) : String := padTo 16 left ++ " " ++ right

def columnTypeText (flags : Flags) (type : FieldType) : String :=
  match type.columnType flags with
  | .ok sql => sql
  | .error e => e.message

def typeLines (wide : Bool) : List String :=
  typeLine "Field type" "Column type" :: String.ofList (List.replicate 40 '─') ::
    shownTypes.map fun type =>
      typeLine type.description (columnTypeText { idsAsBigInt := wide } type)

/-! ### Running -/

/-- The configuration file: the one of the command line, of the environment, or the default. -/
def Environment.file (env : Environment) (options : Options) : String :=
  (options.config <|> env.configFile).getD env.defaultFile

/-- The configuration, if its file exists. -/
def loadConfig (env : Environment) (options : Options) : Except DbError (Option Config) :=
  match env.contents (env.file options) with
  | none => .ok none
  | some bytes => (Config.ofBytes (some bytes)).map some

/-- The flags of the configuration, if it selects an engine. -/
def configFlags (config : Option Config) : Flags :=
  match config.map Config.selected with
  | some (.ok settings) => settings.flags
  | _ => {}

/-- Shows the statement that a query sends. -/
def dryRun (flags : Flags) (query : Query) : Outcome :=
  let db : Database Script := { gateway := Gateway.scripted, flags }
  let (result, world) := (query.execute db).run ⟨{ responses := [] }, []⟩
  let out := world.connection.executed.flatMap statementLines
  match result with
  | .ok _ => { out }
  | .error e => .failed e out []

def connectingLine (settings : PgConfig) : String :=
  "Connecting to: " ++ settings.host ++ ":" ++ toString settings.port ++ "/" ++ settings.db

variable {τ : Type}

/-- Connects to a server and sends the statement of a query. -/
def runLive (server : Server τ) (options : Options) (settings : PgConfig) (query : Query) :
    Action (PgSession τ) Outcome := do
  let before := if options.verbose then [connectingLine settings] else []
  match ← PgGateway.connect server settings with
  | .error e => return .failed (.database (.backend e)) before []
  | .ok gateway =>
    let db := Database.ofConfig { gateway with hasHandler := true }.toGateway settings
    match ← query.execute db with
    | .ok result =>
      db.shutdown
      return { out := before ++ resultLines (options.format.getD .table) query.purpose result }
    | .error e =>
      let reports := (← get).connection.reports
      return .failed e before (reports.map fun e => "Connection error: " ++ e.message)

/-- Runs a query as the options and the configuration say. -/
def runQuery (server : Server τ) (env : Environment) (options : Options) (query : Query) :
    Action (PgSession τ) Outcome := do
  match loadConfig env options with
  | .error e => return .failed (.database e) [] []
  | .ok config =>
    if options.dryRun then return dryRun (configFlags config) query
    match config.map Config.selected with
    | none => return .failed .noConfiguration [] []
    | some (.error e) => return .failed (.database (.config e)) [] []
    | some (.ok settings) => runLive server options settings query

def versionLine : String := "pgdbs 0.3.0"

def usageLine : String :=
  "Usage: pgdbs [-c FILE] [-d] [-f table|json] [-v] find|remove|types ..."

/-- Runs a command line. -/
def run (server : Server τ) (env : Environment) (arguments : List String) :
    Action (PgSession τ) Outcome := do
  match Invocation.ofArguments arguments with
  | .error .version => return { out := [versionLine] }
  | .error .usage => return { exitCode := 2, err := [usageLine] }
  | .ok ⟨options, command⟩ =>
    match command with
    | .find table filter limit offset order =>
      runQuery server env options ⟨.find, findStatement table filter limit offset order⟩
    | .remove table filter all =>
      runQuery server env options ⟨.remove, removeStatement table filter all⟩
    | .types wide => return { out := typeLines wide }

end PgCollections.CommandLine
