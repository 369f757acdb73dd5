import PgCollections.Json.Record
import PgCollections.Schema.FieldType

/-!
# Connection settings

`PgConfig` holds the settings of the connection and the feature flags. Each of them has a default,
so that the empty record is a configuration.
-/

namespace PgCollections

/-- Whether failed statements are logged. -/
inductive LogMode where
  | off
  | errors
deriving DecidableEq

namespace LogMode

def name : LogMode → String
  | off => "off"
  | errors => "errors"

def ofName? (name : String) : Option LogMode :=
  [off, errors].find? fun mode => mode.name = name

end LogMode

/-- What is logged about failed statements. -/
structure Logging where
  mode : LogMode := .off
  /-- Whether the parameters are shown. -/
  params : Bool := false
deriving DecidableEq

structure PgConfig where
  host : String := "localhost"
  port : Nat := 5432
  user : String := "postgres"
  pw : String := ""
  db : String := "postgres"
  maxPoolSize : Nat := 10
  /-- How long to wait for a connection; zero leaves it to the pool. -/
  connectionTimeoutMillis : Nat := 0
  /-- When idle connections are closed; zero stands for the default. -/
  idleTimeoutMillis : Nat := 10000
  /-- Wide integers are read as numbers instead of decimal texts. -/
  bigIntAsNumber : Bool := false
  idsAsBigInt : Bool := false
  logs : LogMode := .off
  logParams : Bool := false
  arrayAsJson : Bool := false
deriving DecidableEq

namespace PgConfig

def fields : List Json.RecordField :=
  [["host"], ["port"], ["user"], ["pw"], ["db"], ["maxPoolSize"], ["connectionTimeoutMillis"],
    ["idleTimeoutMillis"], ["bigIntAsNumber"], ["idsAsBigInt"], ["logs"], ["logParams"],
    ["arrayAsJson", "arrayAsJSON"]].map (⟨·, true⟩)

/-- Reads the settings from a record of the given style. -/
def ofJson? (style : Json.Style) (v : Json) : Option PgConfig := do
  match ← v.record? style fields with
  | [host, port, user, pw, db, maxPoolSize, connectionTimeout, idleTimeout, bigIntAsNumber,
      idsAsBigInt, logs, logParams, arrayAsJson] =>
    let preset : PgConfig := {}
    let logMode := fun v => (Json.choice? style v).bind LogMode.ofName?
    return {
      host := ← Json.orDefault? Json.asString? preset.host host
      port := ← Json.orDefault? (Json.asNat? (Nat.pow 2 16 - 1)) preset.port port
      user := ← Json.orDefault? Json.asString? preset.user user
      pw := ← Json.orDefault? Json.asString? preset.pw pw
      db := ← Json.orDefault? Json.asString? preset.db db
      maxPoolSize := ← Json.orDefault? (Json.asNat? (Nat.pow 2 32 - 1)) preset.maxPoolSize
        maxPoolSize
      connectionTimeoutMillis := ← Json.orDefault? (Json.asNat? (Nat.pow 2 64 - 1))
        preset.connectionTimeoutMillis connectionTimeout
      idleTimeoutMillis := ← Json.orDefault? (Json.asNat? (Nat.pow 2 64 - 1))
        preset.idleTimeoutMillis idleTimeout
      bigIntAsNumber := ← Json.orDefault? Json.asBool? preset.bigIntAsNumber bigIntAsNumber
      idsAsBigInt := ← Json.orDefault? Json.asBool? preset.idsAsBigInt idsAsBigInt
      logs := ← Json.orDefault? logMode preset.logs logs
      logParams := ← Json.orDefault? Json.asBool? preset.logParams logParams
      arrayAsJson := ← Json.orDefault? Json.asBool? preset.arrayAsJson arrayAsJson }
  | _ => none

/-- The time to wait for a connection in milliseconds, when one is set. -/
def connectionTimeout? (config : PgConfig) : Option Nat :=
  if config.connectionTimeoutMillis = 0 then none else some config.connectionTimeoutMillis

/-- The time in milliseconds after which idle connections are closed. -/
def idleTimeout (config : PgConfig) : Nat :=
  if config.idleTimeoutMillis = 0 then ({} : PgConfig).idleTimeoutMillis
  else config.idleTimeoutMillis

def flags (config : PgConfig) : Flags := ⟨config.arrayAsJson, config.idsAsBigInt⟩

def logging (config : PgConfig) : Logging := ⟨config.logs, config.logParams⟩

/-- The connection's name in logs. -/
def target (config : PgConfig) : String :=
  config.host ++ ":" ++ toString config.port ++ ", " ++ config.user ++ "@" ++ config.db

end PgConfig

end PgCollections
