import PgCollections.Log
import PgCollections.Sql.Bindings

/-!
# Gateways

A `Gateway` executes statements; what it knows and what it changes is a state `σ`. `World` adds the
log to that state. `Script` is the state of a gateway that answers from a list of responses and
keeps what it was asked to execute.
-/

namespace PgCollections

/-- What a statement answers: rows, and how many rows were returned or affected. -/
structure QueryResult where
  rows : List Row := []
  rowCount : Nat := 0

structure World (σ : Type) where
  connection : σ
  log : List LogEvent := []

abbrev Action (σ : Type) := StateM (World σ)

/-- Appends events to the log. -/
def recordAll {σ : Type} (events : List LogEvent) : Action σ Unit :=
  modify fun world => { world with log := world.log ++ events }

def record {σ : Type} (event : LogEvent) : Action σ Unit := recordAll [event]

structure Gateway (σ : Type) where
  execute : Statement → Action σ (Except BackendError QueryResult)
  /-- Releases every connection. -/
  close : Action σ Unit := pure ()

structure Script where
  responses : List (Except BackendError QueryResult)
  executed : List Statement := []

/-- Answers with the next response; with none left, a statement succeeds without rows. -/
def Script.next (statement : Statement) (script : Script) :
    Except BackendError QueryResult × Script :=
  let executed := script.executed ++ [statement]
  match script.responses with
  | [] => (.ok {}, ⟨[], executed⟩)
  | response :: rest => (response, ⟨rest, executed⟩)

def Gateway.scripted : Gateway Script where
  execute statement world :=
    let (response, script) := world.connection.next statement
    (response, { world with connection := script })

end PgCollections
