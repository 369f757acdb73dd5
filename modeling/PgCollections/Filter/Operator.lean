import PgCollections.Error

/-!
# Operators

An `Operator` is a condition on one field. Its wire form is an object with the operator's tag under
`op` and its operand under `val`; `Operator.ofJson` reads it, and the first fault in the order of
the text decides the error.
-/

namespace PgCollections

/-- The comparisons of a field with one value. -/
inductive Comparison where
  | eq
  | lte
  | lt
  | gte
  | gt
  | like
deriving DecidableEq

namespace Comparison

def tag : Comparison → String
  | eq => "eq"
  | lte => "lte"
  | lt => "lt"
  | gte => "gte"
  | gt => "gt"
  | like => "like"

def symbol : Comparison → String
  | eq => "="
  | lte => "<="
  | lt => "<"
  | gte => ">="
  | gt => ">"
  | like => "LIKE"

def ofTag? : String → Option Comparison
  | "eq" => some eq
  | "lte" => some lte
  | "lt" => some lt
  | "gte" => some gte
  | "gt" => some gt
  | "like" => some like
  | _ => none

end Comparison

inductive Operator where
  /-- The field compared with a value. -/
  | compare (c : Comparison) (value : Json)
  /-- The value is an element of the field, an array column. -/
  | any (value : Json)
  /-- The field is one of the values; with no values the condition is false. -/
  | oneOf (items : List Json)
  /-- The text found in the field's document at the end of a path equals the value. -/
  | path (steps : List Json) (value : Json)
  /-- All of the operators hold for the field. -/
  | all (ops : List Operator)
deriving Inhabited

namespace Operator

def tag : Operator → String
  | compare c _ => c.tag
  | any _ => "any"
  | oneOf _ => "in"
  | path .. => "of"
  | all _ => "and"

end Operator

theorem Json.sizeOf_lt_of_get? {fields : List (String × Json)} {name : String} {v : Json}
    (h : Keyed.get? fields name = some v) : sizeOf v < sizeOf fields := by
  induction fields with
  | nil => simp [Keyed.get?] at h
  | cons entry rest ih =>
    obtain ⟨key, w⟩ := entry
    simp only [Keyed.get?, List.lookup_cons] at h ih
    simp only [List.cons.sizeOf_spec, Prod.mk.sizeOf_spec]
    split at h
    · cases h; omega
    · have := ih h; omega

/-- The field of an object, or null, is smaller than the object. -/
theorem Json.sizeOf_getD_lt (fields : List (String × Json)) (name : String) :
    sizeOf ((Keyed.get? fields name).getD .null) < sizeOf (Json.object fields) := by
  simp only [Json.object.sizeOf_spec]
  cases h : Keyed.get? fields name with
  | none =>
    simp only [Option.getD_none, Json.null.sizeOf_spec]
    cases fields with
    | nil => simp only [List.nil.sizeOf_spec]; omega
    | cons entry rest => simp only [List.cons.sizeOf_spec]; omega
  | some v => have := Json.sizeOf_lt_of_get? h; simp; omega

namespace Operator

mutual

/-- The operator with the given tag and operand. -/
def ofTag (tag : String) (val : Json) : Except DbError Operator :=
  match tag, val with
  | "any", v => .ok (.any v)
  | "in", .array items => .ok (.oneOf items)
  | "in", v => .error (.validation (.inNeedsList v))
  | "of", .object fields =>
    match Keyed.get? fields "path" with
    | some (.array steps) => .ok (.path steps ((Keyed.get? fields "value").getD .null))
    | _ => .error (.validation .ofNeedsPath)
  | "of", _ => .error (.validation .ofNeedsObject)
  | "and", .array items => (ofList items).map .all
  | "and", _ => .error (.validation .andNeedsList)
  | tag, v =>
    match Comparison.ofTag? tag with
    | some c => .ok (.compare c v)
    | none => .error (.unsupportedOperator tag)
termination_by sizeOf val

/-- Reads the wire form of an operator. -/
def ofJson (v : Json) : Except DbError Operator :=
  match v with
  | .object fields =>
    match Keyed.get? fields "op" with
    | some (.string tag) => ofTag tag ((Keyed.get? fields "val").getD .null)
    | some other => .error (.unsupportedOperator other.text)
    | none => .error (.validation .missingOp)
  | other => .error (.validation (.operatorNotObject other))
termination_by sizeOf v
decreasing_by exact Json.sizeOf_getD_lt fields "val"

def ofList (items : List Json) : Except DbError (List Operator) :=
  match items with
  | [] => .ok []
  | v :: rest => do
    let op ← ofJson v
    let ops ← ofList rest
    return op :: ops
termination_by sizeOf items

end

end Operator

end PgCollections
