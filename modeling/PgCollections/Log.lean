import PgCollections.Error

/-!
# Log events

What the library logs, as events; `LogEvent.fields` are the fields of an event with their texts.
-/

namespace PgCollections

inductive LogEvent where
  | connected (target : String)
  | connectionFailed (target : String) (e : BackendError)
  | tableCreated (name : String)
  /-- A failure that became an error of its own. -/
  | classified (heading code : String) (e : BackendError) (domain : DbError)
  /-- A failure that is passed on; the parameters are there only when they are to be shown. -/
  | statementFailed (heading sql : String) (params : Option (List Json)) (e : BackendError)

namespace LogEvent

def level : LogEvent → String
  | connected _ => "INFO"
  | tableCreated _ | classified .. => "DEBUG"
  | connectionFailed .. | statementFailed .. => "ERROR"

def message : LogEvent → String
  | connected target => "Connected to " ++ target
  | connectionFailed target e =>
    "Postgres DB-connection failed for host " ++ target ++ " with ERROR: " ++ e.message
  | tableCreated name => "Created table " ++ name
  | classified heading _ _ domain => heading ++ " " ++ domain.message
  | statementFailed heading .. => heading

/-- The fields beside level and message. -/
def details : LogEvent → List (String × String)
  | classified _ code e _ =>
    [("code", "Some(" ++ debugQuote code ++ ")"), ("error", e.message)]
  | statementFailed _ sql params e =>
    ("error", e.message) :: ("query", sql) ::
      (match params with
        | some params => [("params", Json.debugList params)]
        | none => [])
  | _ => []

def fields (event : LogEvent) : List (String × String) :=
  ("level", event.level) :: ("message", event.message) :: event.details

end LogEvent

end PgCollections
