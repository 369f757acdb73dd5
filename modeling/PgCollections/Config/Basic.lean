import PgCollections.Config.Postgres
import PgCollections.Error

/-!
# Configurations

A `Config` names a database engine and holds the settings of each engine that there is.
-/

namespace PgCollections

structure Config where
  engine : String
  postgresql : PgConfig
deriving DecidableEq

namespace Config

/-- The only engine that there is. -/
def postgresqlName : String := "postgresql"

/-- The settings of the selected engine. -/
def selected (config : Config) : Except ConfigError PgConfig :=
  if config.engine = postgresqlName then .ok config.postgresql
  else .error (.unknownEngine config.engine)

def fields : List Json.RecordField := [⟨["use"], false⟩, ⟨["postgresql"], false⟩]

/-- Reads a configuration from a record of the given style. -/
def ofJson? (style : Json.Style) (v : Json) : Option Config := do
  match ← v.record? style fields with
  | [some engine, some postgresql] =>
    return ⟨← engine.asString?, ← PgConfig.ofJson? style postgresql⟩
  | _ => none

end Config

end PgCollections
