import PgCollections.Config.Postgres
import PgCollections.Log
import PgCollections.Sql.Bindings

/-!
# Diagnostics

A failure that is passed on is reported to a sink, and a `Diagnostics` is what a sink logs about it.
`Logging.diagnostics` is the sink that follows the settings.
-/

namespace PgCollections

/-- A statement that failed. -/
structure StatementFailure where
  /-- What the statement was executed for, as log events say it. -/
  heading : String
  statement : Statement
  error : BackendError

/-- What is logged about a failure. -/
abbrev Diagnostics := StatementFailure → List LogEvent

/-- Logs every failure, or none. -/
def Logging.diagnostics (logging : Logging) : Diagnostics := fun failure =>
  match logging.mode with
  | .off => []
  | .errors =>
    [.statementFailed failure.heading failure.statement.sql
      (if logging.params then some failure.statement.params else none) failure.error]

end PgCollections
