import PgCollections.Number.Numeric.Total
import PgCollections.Postgres.Datum

/-!
# The server's binary format

`Datum.encode` writes a value as the server's bytes, and `Datum.decode?` reads the bytes of a value
of a given type.
-/

namespace PgCollections

/-! ### Exact decimals -/

namespace Numeric

/-- The number's digits to base 10000, the most significant first. -/
def groups (n : Nat) : List Nat :=
  if n = 0 then [] else groups (n / 10000) ++ [n % 10000]

/-- The coefficient with as many decimals as fill whole groups. -/
def aligned (x : Numeric) : Nat := x.coefficient * Nat.pow 10 ((4 - x.scale % 4) % 4)

/-- The groups without zeros at the end. -/
def significant (groups : List Nat) : List Nat :=
  (groups.reverse.dropWhile (· = 0)).reverse

/-- The count of groups, the power of 10000 of the first one, the sign, the number of decimals, and
the groups. Zero has neither groups nor decimals. -/
def encode (x : Numeric) : Bytes :=
  if x.coefficient = 0 then Bytes.ofNat 8 0
  else
    let all := groups x.aligned
    let kept := significant all
    let weight : Int := all.length - (x.scale + 3) / 4 - 1
    Bytes.ofNat 2 kept.length ++ Bytes.ofInt 2 weight ++
      Bytes.ofNat 2 (if x.negative then 0x4000 else 0) ++ Bytes.ofNat 2 x.scale ++
      kept.flatMap (Bytes.ofNat 2)

/-- The groups of two bytes each. -/
def decodeGroups? (count : Nat) (bytes : Bytes) : Option (List Int) :=
  match count with
  | 0 => some []
  | count + 1 => do
    let (group, rest) ← bytes.takeInt? 2
    return group :: (← decodeGroups? count rest)

/-- Reads a finite number. Without groups it is zero, whatever else is said of it. -/
def decode? (bytes : Bytes) : Option Numeric := do
  let (count, bytes) ← bytes.takeNat? 2
  let (weight, bytes) ← bytes.takeInt? 2
  let (sign, bytes) ← bytes.takeNat? 2
  let (scale, bytes) ← bytes.takeNat? 2
  let groups ← decodeGroups? count bytes
  if sign ≠ 0 ∧ sign ≠ 0x4000 then none
  else if groups.isEmpty then some ⟨false, 0, 0⟩
  else return (← ofGroups? (sign ≠ 0) weight groups).rescale scale

end Numeric

/-! ### Scalars -/

namespace Scalar

/-- The microseconds of a moment. -/
def encodeMoment (t : Timestamp) : Bytes := Bytes.ofInt 8 t.micros

def encode : Scalar → Bytes
  | bool b => [if b then 1 else 0]
  | int width n => Bytes.ofInt width.bytes n
  | float4 x => Bytes.ofNat 4 x.toBits
  | float8 x => Bytes.ofNat 8 x.toBits
  | numeric x => x.encode
  | uuid u => u.bytes
  | timestamptz t => encodeMoment t
  | timestamp t => encodeMoment t
  | date d => Bytes.ofInt 4 d.dayNumber
  | text s => Bytes.ofString s

/-- The first `width` bytes. Bytes after them are passed over. -/
def leading? (width : Nat) (bytes : Bytes) : Option Bytes := (bytes.take? width).map (·.1)

def decodeMoment? (bytes : Bytes) : Option Timestamp := do
  Timestamp.ofMicros? (← leading? 8 bytes).toInt

/-- The date of a day number, if the date exists. Numbers outside the years of dates, those that
stand for infinity among them, are no dates. -/
def decodeDate? (bytes : Bytes) : Option Date := do
  let date := Date.ofDayNumber (← leading? 4 bytes).toInt
  if date.isValid then return date else none

/-- Reads a value of a scalar type; types that are not listed are not read. -/
def decode? (type : PgType) (bytes : Bytes) : Option Scalar :=
  match type with
  | .bool => (leading? 1 bytes).map fun bytes => bool (bytes != [0])
  | .int width => (leading? width.bytes bytes).map fun bytes => int width bytes.toInt
  | .float4 => (leading? 4 bytes).map fun bytes => float4 (.ofBits bytes.toNat)
  | .float8 => (leading? 8 bytes).map fun bytes => float8 (.ofBits bytes.toNat)
  | .numeric => (Numeric.decode? bytes).map numeric
  | .uuid => (Uuid.ofBytes? bytes).map uuid
  | .timestamptz => (decodeMoment? bytes).map timestamptz
  | .timestamp => (decodeMoment? bytes).map timestamp
  | .date => (decodeDate? bytes).map date
  | .text | .varchar | .char | .name | .unknown => bytes.toString?.map text
  | .json | .jsonb | .list _ | .other _ => none

end Scalar

/-! ### Lists -/

/-- The number by which the server knows an element type. Texts of either kind are sent as texts. -/
def ElementType.oid : ElementType → Nat
  | bool => 16
  | int .two => 21
  | int .four => 23
  | int .eight => 20
  | float8 => 701
  | text | varchar => 25

namespace Datum

/-- An element is its length and its bytes. -/
def encodeElement (x : Scalar) : Bytes :=
  let bytes := x.encode
  Bytes.ofNat 4 bytes.length ++ bytes

/-- One dimension, no null elements, the element type, and the elements counted from one. -/
def encodeList (element : ElementType) (items : List Scalar) : Bytes :=
  Bytes.ofNat 4 1 ++ Bytes.ofNat 4 0 ++ Bytes.ofNat 4 element.oid ++ Bytes.ofNat 4 items.length ++
    Bytes.ofNat 4 1 ++ items.flatMap encodeElement

/-- The version with which a binary document begins. -/
def documentVersion : UInt8 := 1

def encode : Datum → Bytes
  | scalar x => x.encode
  | list element items => encodeList element items
  | json text => Bytes.ofString text
  | jsonb text => documentVersion :: Bytes.ofString text

/-- Reads elements, none of which may be null. -/
def decodeElements? (type : PgType) (count : Nat) (bytes : Bytes) : Option (List Scalar) :=
  match count with
  | 0 => some []
  | count + 1 => do
    let (length, bytes) ← bytes.takeInt? 4
    if length < 0 then none
    else
      let (own, rest) ← bytes.take? length.toNat
      let x ← Scalar.decode? type own
      return x :: (← decodeElements? type count rest)

/-- Reads a list of one dimension that counts from one, or the empty list of no dimension. -/
def decodeList? (type : PgType) (bytes : Bytes) : Option (List Scalar) := do
  let (dimensions, bytes) ← bytes.takeInt? 4
  if dimensions = 0 then return []
  if dimensions ≠ 1 then none
  let (_, bytes) ← bytes.take? 8
  let (count, bytes) ← bytes.takeInt? 4
  let (start, bytes) ← bytes.takeInt? 4
  if start ≠ 1 ∨ count < 0 then none else decodeElements? type count.toNat bytes

/-- Reads a value of a type; values of other types are not read. -/
def decode? (type : PgType) (bytes : Bytes) : Option Datum :=
  match type with
  | .list element => (decodeList? element.type bytes).map (list element)
  | .json => bytes.toString?.map json
  | .jsonb =>
    match bytes with
    | version :: text =>
      if version = documentVersion then (Bytes.toString? text).map jsonb else none
    | [] => none
  | type => (Scalar.decode? type bytes).map scalar

end Datum

end PgCollections
