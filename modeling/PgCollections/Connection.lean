import PgCollections.Config.Basic
import PgCollections.Database
import PgCollections.Postgres.Gateway

/-!
# Connections

`Database.connect` opens the database that a configuration selects.
-/

namespace PgCollections.Database

variable {τ : Type}

/-- Connects to the selected engine; a configuration that selects none is refused first. -/
def connect (server : Server τ) (config : Config) :
    Action (PgSession τ) (Except DbError (Database (PgSession τ))) := do
  match config.selected with
  | .error e => return .error (.config e)
  | .ok settings =>
    match ← PgGateway.connect server settings with
    | .error e => return .error (.backend e)
    | .ok gateway => return .ok (ofConfig gateway.toGateway settings)

end PgCollections.Database
