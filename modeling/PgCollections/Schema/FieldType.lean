import PgCollections.Error
import PgCollections.Json.Record

/-!
# Field types

A `FieldKind` is an abstract type of a field; its name is read and printed with one `array_` for
each level of lists. A `FieldType` adds a length and whether the database numbers the rows, and
`FieldType.columnType` maps it to the column type of the database.
-/

namespace PgCollections

/-- Flags that change how statements are built. -/
structure Flags where
  /-- Lists in rows are written as JSON text instead of array values. -/
  arrayAsJson : Bool := false
  /-- Ids are wide integers. -/
  idsAsBigInt : Bool := false
deriving DecidableEq

inductive FieldKind where
  | int
  | id
  | bool
  | float
  /-- Texts, under any of the names for special ones. -/
  | text
  /-- A time as a number. -/
  | time
  | bigInt
  | array (item : FieldKind)
deriving DecidableEq

namespace FieldKind

/-- The kind that is no list, by name. -/
def base? : String → Option FieldKind
  | "int" => some int
  | "id" => some id
  | "bool" => some bool
  | "float" => some float
  | "/" | "string" | "hex" | "base64" | "email" | "password" => some text
  | "time" => some time
  | "bigint" => some bigInt
  | _ => none

/-- Reads a name; the error shows what is left of it after the list prefixes. -/
def ofChars : List Char → Except DbError FieldKind
  | 'a' :: 'r' :: 'r' :: 'a' :: 'y' :: '_' :: item => (ofChars item).map array
  | cs =>
    match base? (String.ofList cs) with
    | some kind => .ok kind
    | none => .error (.unknownType ("\x7b\"type\":\"" ++ String.ofList cs ++ "\"\x7d"))

def ofName (name : String) : Except DbError FieldKind := ofChars name.toList

def name : FieldKind → String
  | int => "int"
  | id => "id"
  | bool => "bool"
  | float => "float"
  | text => "string"
  | time => "time"
  | bigInt => "bigint"
  | array item => "array_" ++ item.name

end FieldKind

structure FieldType where
  kind : FieldKind
  maxLength : Option Nat := none
  auto : Bool := false
deriving DecidableEq

namespace FieldType

def maxMaxLength : Nat := Nat.pow 2 32 - 1

def ofJson (v : Json) : Except DecodeError FieldType :=
  let shape : Option (String × Option Nat × Bool) := do
    match ← v.record? .strict [⟨["type"], false⟩, ⟨["maxLength"], false⟩, ⟨["auto"], true⟩] with
    | [some kind, maxLength, auto] =>
      return (← kind.asString?, ← Json.optional? (Json.asNat? maxMaxLength) maxLength,
        ← Json.orDefault? Json.asBool? false auto)
    | _ => none
  match shape with
  | none => .error .shape
  | some (name, maxLength, auto) =>
    match FieldKind.ofName name with
    | .ok kind => .ok ⟨kind, maxLength, auto⟩
    | .error e => .error (.refused e)

/-- The description as JSON text. -/
def description (type : FieldType) : String :=
  "\x7b\"type\":\"" ++ type.kind.name ++ "\"" ++
    (match type.maxLength with
      | some n => ",\"maxLength\":" ++ toString n
      | none => "") ++
    (if type.auto then ",\"auto\":true" else "") ++ "\x7d"

/-- The column type that an id has. -/
def idColumnType (flags : Flags) (auto : Bool) : String :=
  match flags.idsAsBigInt, auto with
  | true, true => "bigserial"
  | true, false => "bigint"
  | false, true => "serial"
  | false, false => "integer"

/-- The column type of the database; only lists of whole numbers have one. -/
def columnType (flags : Flags) (type : FieldType) : Except DbError String :=
  match type.kind with
  | .int => .ok "integer"
  | .id => .ok (idColumnType flags type.auto)
  | .bool => .ok "boolean"
  | .float => .ok "double precision"
  | .text =>
    match type.maxLength with
    | some (n + 1) => .ok ("varchar(" ++ toString (n + 1) ++ ")")
    | _ => .ok "text"
  | .time | .bigInt => .ok "bigint"
  | .array .time | .array .bigInt => .ok "bigint[]"
  | .array .int => .ok "integer[]"
  | .array .id => .ok (if flags.idsAsBigInt then "bigint[]" else "integer[]")
  | .array _ => .error (.unknownType type.description)

end FieldType

end PgCollections
