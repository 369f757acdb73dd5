import PgCollections.Filter.Operator

/-!
# Filters

A `Filter` maps fields to conditions, all of which must hold. The order of the fields is the order
of their first insertion, and setting the condition of a known field replaces it in place.
-/

namespace PgCollections

inductive Condition where
  /-- The field equals the value; the value is never read as an operator. -/
  | value (v : Json)
  | operator (op : Operator)
deriving Inhabited

structure Filter where
  entries : Keyed Condition := []

namespace Filter

def empty : Filter := {}

def withCondition (filter : Filter) (field : String) (condition : Condition) : Filter :=
  ⟨Keyed.insert filter.entries field condition⟩

def withValue (filter : Filter) (field : String) (v : Json) : Filter :=
  filter.withCondition field (.value v)

def withOp (filter : Filter) (field : String) (op : Operator) : Filter :=
  filter.withCondition field (.operator op)

def isEmpty (filter : Filter) : Bool := filter.entries.isEmpty

def size (filter : Filter) : Nat := filter.entries.length

/-- A list as the plain value of a field means membership; all else is left as it is. -/
def Condition.arrayAsOneOf : Condition → Condition
  | .value (.array items) => .operator (.oneOf items)
  | condition => condition

def arraysAsOneOf (filter : Filter) : Filter :=
  ⟨filter.entries.map fun (field, condition) => (field, Condition.arrayAsOneOf condition)⟩

/-- Reads the condition of a field: an object must be an operator, all else is a plain value. -/
def conditionOfJson (field : String) : Json → Except DbError Condition
  | .object fields =>
    if (Keyed.get? fields "op").isSome then (Operator.ofJson (.object fields)).map .operator
    else .error (.validation (.conditionWithoutOp field))
  | v => .ok (.value v)

/-- Reads the wire form of a filter, an object of conditions by field. -/
def ofJson : Json → Except DbError Filter
  | .object fields =>
    fields.foldlM (fun filter (field, v) =>
      (conditionOfJson field v).map (filter.withCondition field)) .empty
  | other => .error (.validation (.filterNotObject other))

end Filter

end PgCollections
