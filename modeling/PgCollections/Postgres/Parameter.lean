import PgCollections.Error
import PgCollections.Number.Numeric.Reader
import PgCollections.Postgres.Format

/-!
# Parameters

`PgType.convert` turns a JSON value into a value of the placeholder's type. Strings are read as the
server would read a literal of the type, so that values which were read as strings can be sent
back. `Argument` is what is handed to the server for a placeholder.
-/

namespace PgCollections

/-- Why a statement failed. -/
inductive PgError where
  | driver (e : DriverError)
  | countMismatch (supplied required : Nat)
  | invalidInput (type : PgType) (v : Json)
  | outOfRange (type : PgType) (n : Int)

namespace PgError

/-- How messages call a type. -/
def typeLabel (type : PgType) : String := type.typeName.toLower

def code? : PgError → Option String
  | driver e => e.code?
  | countMismatch .. => some SqlState.protocolViolation
  | invalidInput .. => some SqlState.invalidTextRepresentation
  | outOfRange .. => some SqlState.numericValueOutOfRange

def message : PgError → String
  | driver e => e.message
  | countMismatch supplied required =>
    "bind message supplies " ++ toString supplied ++
      " parameters, but prepared statement requires " ++ toString required
  | invalidInput type v => "invalid input syntax for type " ++ typeLabel type ++ ": " ++ v.text
  | outOfRange type n =>
    "value " ++ toString n ++ " is out of range for type " ++ typeLabel type

def cause? : PgError → Option DriverError
  | driver e => some e
  | _ => none

def toBackend (e : PgError) : BackendError := ⟨e.code?, e.message, e.cause?⟩

end PgError

/-! ### Reading scalars -/

/-- A string as it is, and any other value as its JSON text. -/
def Json.plainText : Json → String
  | .string s => s
  | v => v.text

/-- The characters of a string without white space at its ends. -/
def Json.asTrimmed? (v : Json) : Option (List Char) := v.asString?.map fun s => trim s.toList

namespace Scalar

def trueWords : List String := ["t", "true", "y", "yes", "on", "1"]

def falseWords : List String := ["f", "false", "n", "no", "off", "0"]

/-- A truth value, or a word for one in either case. -/
def readBool? : Json → Option Bool
  | .bool b => some b
  | v => do
    let word := String.ofList ((← v.asTrimmed?).map Char.toLower)
    if word ∈ trueWords then some true
    else if word ∈ falseWords then some false
    else none

/-- A whole number of 64 bits, as a number or as a text. -/
def readInt? : Json → Option Int
  | .number (.int n) => if fitsInt64 n then some n else none
  | v => do
    let n ← scanInt.all? (← v.asTrimmed?)
    if fitsInt64 n then some n else none

def readDouble? : Json → Option Double
  | .number (.int n) => some (.ofInt n)
  | .number (.float x) => some x
  | v => do Double.scan.all? (← v.asTrimmed?)

def readNumeric? : Json → Option Numeric
  | .number n => Numeric.ofText? n.text.toList
  | v => do Numeric.ofText? (← v.asTrimmed?)

/-- Why a value is refused: it denotes nothing of the type's kind, or a number that is too large. -/
inductive Refusal where
  | invalid
  | outOfRange (n : Int)
deriving DecidableEq

def orInvalid (x : Option Scalar) : Except Refusal Scalar :=
  match x with
  | some x => .ok x
  | none => .error .invalid

/-- A whole number of a width. -/
def readInt (width : IntWidth) (v : Json) : Except Refusal Scalar :=
  match readInt? v with
  | none => .error .invalid
  | some n => if width.holds n then .ok (.int width n) else .error (.outOfRange n)

/-- The value of a scalar type; a type without a reader of its own takes the text. -/
def ofJson (type : PgType) (v : Json) : Except Refusal Scalar :=
  match type with
  | .bool => orInvalid ((readBool? v).map bool)
  | .int width => readInt width v
  | .float4 => orInvalid ((readDouble? v).map fun x => float4 (x.convert .single))
  | .float8 => orInvalid ((readDouble? v).map float8)
  | .numeric => orInvalid ((readNumeric? v).map numeric)
  | .uuid => orInvalid ((v.asString?.bind Uuid.ofText?).map uuid)
  | .timestamptz => orInvalid ((v.asString?.bind Timestamp.ofInstant?).map timestamptz)
  | .timestamp => orInvalid ((v.asString?.bind Timestamp.ofLocal?).map timestamp)
  | .date => orInvalid ((v.asString?.bind Date.ofText?).map date)
  | _ => .ok (.text v.plainText)

end Scalar

/-! ### Conversion -/

namespace PgType

/-- A refused value as an error about the placeholder's type. -/
def refusal (type : PgType) (v : Json) : Scalar.Refusal → PgError
  | .invalid => .invalidInput type v
  | .outOfRange n => .outOfRange type n

/-- A list whose items are values of the element type; whatever is wrong, the whole value is
refused. -/
def convertList (element : ElementType) (v : Json) : Except PgError Datum :=
  let refused := PgError.invalidInput (.list element) v
  match v with
  | .array items =>
    ((items.mapM (Scalar.ofJson element.type)).map (Datum.list element)).mapError fun _ => refused
  | _ => .error refused

/-- The value for a placeholder of the type; nothing stands for null. -/
def convert (type : PgType) (v : Json) : Except PgError (Option Datum) :=
  if v.isNull then .ok none
  else some <$>
    match type with
    | .list element => convertList element v
    | .json => .ok (.json v.plainText)
    | .jsonb => .ok (.jsonb v.plainText)
    | _ => ((Scalar.ofJson type v).mapError (type.refusal v)).map Datum.scalar

end PgType

/-! ### Arguments -/

/-- The type of its own that a value is sent under; texts and documents have none. -/
def Scalar.type? : Scalar → Option PgType
  | bool _ => some .bool
  | int width _ => some (.int width)
  | float4 _ => some .float4
  | float8 _ => some .float8
  | numeric _ => some .numeric
  | uuid _ => some .uuid
  | timestamptz _ => some .timestamptz
  | timestamp _ => some .timestamp
  | date _ => some .date
  | text _ => none

/-- Lists of texts are sent as such, whichever kind of text the placeholder takes. -/
def ElementType.sent : ElementType → ElementType
  | varchar => text
  | element => element

def Datum.type? : Datum → Option PgType
  | scalar x => x.type?
  | list element _ => some (.list element.sent)
  | json _ | jsonb _ => none

/-- What is handed to the server: a type, and bytes in its format or null. -/
structure Argument where
  type : PgType
  bytes : Option Bytes
deriving DecidableEq

/-- The argument for a placeholder: a value without a type of its own takes the described one. -/
def Argument.ofDatum (described : PgType) (datum : Option Datum) : Argument :=
  ⟨(datum.bind Datum.type?).getD described, datum.map Datum.encode⟩

/-- The arguments for placeholders of the given types, or the first error. -/
def Argument.ofValues : List PgType → List Json → Except PgError (List Argument)
  | type :: types, v :: values => do
    let datum ← type.convert v
    return .ofDatum type datum :: (← ofValues types values)
  | _, _ => .ok []

end PgCollections
