import PgCollections.Bytes

/-!
# Types of the server

The types that the server gives to placeholders and columns. Each has its name; types that the
library treats alike, whatever they are, are `other`.
-/

namespace PgCollections

/-- The width of a whole-number type in bytes. -/
inductive IntWidth where
  | two
  | four
  | eight
deriving DecidableEq

namespace IntWidth

def bytes : IntWidth → Nat
  | two => 2
  | four => 4
  | eight => 8

/-- The numbers of the type: `-2 ^ (8 * bytes - 1)` and up, below `2 ^ (8 * bytes - 1)`. -/
def holds (width : IntWidth) (n : Int) : Bool :=
  let bound : Int := (Nat.pow 2 (8 * width.bytes - 1) : Nat)
  n < bound ∧ -bound ≤ n

end IntWidth

/-- The types of the elements of lists that are converted element by element. -/
inductive ElementType where
  | bool
  | int (width : IntWidth)
  | float8
  | text
  | varchar
deriving DecidableEq

inductive PgType where
  | bool
  | int (width : IntWidth)
  | float4
  | float8
  | numeric
  | uuid
  | timestamptz
  | timestamp
  | date
  | json
  | jsonb
  | text
  | varchar
  | char
  | name
  | unknown
  | list (element : ElementType)
  | other (name : String)
deriving DecidableEq

def ElementType.type : ElementType → PgType
  | bool => .bool
  | int width => .int width
  | float8 => .float8
  | text => .text
  | varchar => .varchar

namespace PgType

def scalarName : PgType → String
  | bool => "BOOL"
  | int .two => "INT2"
  | int .four => "INT4"
  | int .eight => "INT8"
  | float4 => "FLOAT4"
  | float8 => "FLOAT8"
  | numeric => "NUMERIC"
  | uuid => "UUID"
  | timestamptz => "TIMESTAMPTZ"
  | timestamp => "TIMESTAMP"
  | date => "DATE"
  | json => "JSON"
  | jsonb => "JSONB"
  | text => "TEXT"
  | varchar => "VARCHAR"
  | char => "CHAR"
  | name => "NAME"
  | unknown => "UNKNOWN"
  | list _ => ""
  | other spelling => spelling

def typeName : PgType → String
  | list element => element.type.scalarName ++ "[]"
  | type => type.scalarName

/-- All types with a constructor of their own. -/
def known : List PgType :=
  [bool, int .two, int .four, int .eight, float4, float8, numeric, uuid, timestamptz, timestamp,
    date, json, jsonb, text, varchar, char, name, unknown, list .bool, list (.int .two),
    list (.int .four), list (.int .eight), list .float8, list .text, list .varchar]

def ofName (spelling : String) : PgType :=
  (known.find? fun type => type.typeName = spelling).getD (other spelling)

end PgType

end PgCollections
