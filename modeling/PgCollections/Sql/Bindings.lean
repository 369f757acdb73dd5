import PgCollections.Error

/-!
# Statements and their parameters

A `Statement` is a text with the placeholders `$1`, `$2`, … and the values for them. While a text
is built, `Bindings` holds the values so far. `Building` is the activity of building: it can fail,
and what it bound before the failure stays bound.
-/

namespace PgCollections

structure Statement where
  sql : String
  params : List Json

/-- The last placeholder number handed out, and the values in the order of their placeholders. -/
structure Bindings where
  index : Nat := 0
  params : List Json := []

def placeholder (index : Nat) : String := "$" ++ toString index

def Bindings.add (bindings : Bindings) (value : Json) : Bindings :=
  ⟨bindings.index + 1, bindings.params ++ [value]⟩

abbrev Building := ExceptT DbError (StateM Bindings)

namespace Building

/-- Binds a value and gives its placeholder. -/
def bind (value : Json) : Building String := do
  modify (·.add value)
  return placeholder (← get).index

/-- Binds values in order, and gives their placeholders. -/
def bindAll (values : List Json) : Building (List String) := values.mapM bind

/-- Builds on what is already bound. -/
def runFrom (build : Building α) (bindings : Bindings) : Except DbError α × Bindings :=
  build.run.run bindings

/-- The statement with the built text, numbered from `$1`. -/
def statement (build : Building String) : Except DbError Statement :=
  match build.runFrom {} with
  | (.ok sql, bindings) => .ok ⟨sql, bindings.params⟩
  | (.error e, _) => .error e

end Building

end PgCollections
