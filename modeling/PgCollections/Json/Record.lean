import PgCollections.Json.Basic

/-!
# Records as JSON values

A record is written as an object of its fields, in which unknown fields are ignored, or as the list
of its field values in order. `record?` finds the value of each field in either form. A choice
between names is written as the name, or as an object from the name to nothing. What stands for
nothing, and whether a list may be longer than the record, depends on the notation.
-/

namespace PgCollections.Json

/-- How a notation writes records. -/
structure Style where
  /-- What may stand for nothing. -/
  isNothing : Json → Bool
  /-- Whether a list may go on after the last field. -/
  surplus : Bool

/-- Null stands for nothing, and a list ends with the last field. -/
def Style.strict : Style := ⟨isNull, false⟩

/-- A field of a record: the names it goes by, and whether a list may end before it. -/
structure RecordField where
  names : List String
  trailing : Bool := false

/-- The value of a field of an object, which may not be there under two names. -/
def RecordField.find? (field : RecordField) (fields : List (String × Json)) :
    Option (Option Json) :=
  match field.names.filterMap (Keyed.get? fields) with
  | [] => some none
  | [v] => some (some v)
  | _ => none

/-- The values of the fields, each of which may be absent. -/
def record? (style : Style) (spec : List RecordField) : Json → Option (List (Option Json))
  | .object fields => spec.mapM (·.find? fields)
  | .array items =>
    if (style.surplus ∨ items.length ≤ spec.length) ∧
        (spec.drop items.length).all (·.trailing) then
      some ((items.take spec.length).map some ++
        List.replicate (spec.length - items.length) none)
    else none
  | _ => none

/-- The chosen name. -/
def choice? (style : Style) : Json → Option String
  | .string name => some name
  | .object [(name, v)] => if style.isNothing v then some name else none
  | _ => none

/-- An absent value, null, or a value that `read` accepts. -/
def optional? (read : Json → Option α) : Option Json → Option (Option α)
  | none | some .null => some none
  | some v => (read v).map some

/-- The default for an absent value; any other value must be accepted by `read`. -/
def orDefault? (read : Json → Option α) (default : α) : Option Json → Option α
  | none => some default
  | some v => read v

end PgCollections.Json
