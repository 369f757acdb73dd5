import PgCollections.Filter.Basic
import PgCollections.Sql.Bindings
import PgCollections.Sql.Identifier

/-!
# Predicates

The text of a filter: its conditions from left to right, joined by `AND`. Nested conjunctions need
no parentheses, since `AND` binds most loosely of all that a predicate contains.
-/

namespace PgCollections

mutual

/-- The predicate of an operator on a field. -/
def Operator.predicate (field : String) : Operator → Building String
  | .compare c v => do
    return quoteIdentifier field ++ " " ++ c.symbol ++ " " ++ (← Building.bind v)
  | .any v => do
    return (← Building.bind v) ++ " = ANY(" ++ quoteIdentifier field ++ ")"
  | .oneOf items => do
    if items.isEmpty then return "FALSE"
    return quoteIdentifier field ++ " IN (" ++ ",".intercalate (← Building.bindAll items) ++ ")"
  | .path steps value => do
    let some last := steps.getLast? | throw (.validation (.emptyPath field))
    let inner ← Building.bindAll steps.dropLast
    let lastSlot ← Building.bind last
    let slot ← Building.bind value
    return quoteIdentifier field ++ String.join (inner.map ("->" ++ ·)) ++ "->>" ++ lastSlot ++
      " = " ++ slot
  | .all ops => do
    if ops.isEmpty then throw (.validation (.emptyAnd field))
    return " AND ".intercalate (← Operator.predicates field ops)

/-- The predicates of several operators on one field. -/
def Operator.predicates (field : String) : List Operator → Building (List String)
  | [] => return []
  | op :: rest => do
    let first ← op.predicate field
    return first :: (← Operator.predicates field rest)

end

def Condition.predicate (field : String) : Condition → Building String
  | .value v => Operator.predicate field (.compare .eq v)
  | .operator op => op.predicate field

namespace Filter

/-- The conjunction of the conditions; the empty filter has the empty text. -/
def predicate (filter : Filter) : Building String := do
  let parts ← filter.entries.mapM fun (field, condition) => condition.predicate field
  return " AND ".intercalate parts

/-- The clause that restricts a statement to the filter, or nothing. -/
def whereClause (filter : Filter) : Building String := do
  let predicate ← filter.predicate
  return if predicate.isEmpty then "" else " WHERE " ++ predicate

end Filter

end PgCollections
