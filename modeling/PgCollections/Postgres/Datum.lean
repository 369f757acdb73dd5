import PgCollections.Json.Printer
import PgCollections.Json.Reader
import PgCollections.Number.Numeric.Basic
import PgCollections.Postgres.Type
import PgCollections.Postgres.Uuid
import PgCollections.Time.Timestamp

/-!
# Values of the server's types

A `Datum` is a value that a placeholder is given or that a cell holds: a scalar, a list of scalars,
or the text of a JSON document. A text stands for the value of any type that has no constructor of
its own here.
-/

namespace PgCollections

inductive Scalar where
  | bool (b : Bool)
  | int (width : IntWidth) (n : Int)
  | float4 (x : Single)
  | float8 (x : Double)
  | numeric (x : Numeric)
  | uuid (u : Uuid)
  | timestamptz (t : Timestamp)
  | timestamp (t : Timestamp)
  | date (date : Date)
  | text (s : String)
deriving DecidableEq

inductive Datum where
  | scalar (x : Scalar)
  | list (element : ElementType) (items : List Scalar)
  | json (text : String)
  | jsonb (text : String)
deriving DecidableEq

/-! ### Values as JSON -/

/-- A value as JSON. Wide integers are numbers only on request, since readers of JSON may take
numbers for doubles. -/
def Scalar.toJson (bigIntAsNumber : Bool) : Scalar → Json
  | bool b => .bool b
  | int .eight n => if bigIntAsNumber then .int n else .string (toString n)
  | int _ n => .int n
  | float4 x => .ofDouble (x.convert .double)
  | float8 x => .ofDouble x
  | numeric x => .string x.text
  | uuid u => .string u.text
  | timestamptz t => .string t.instantText
  | timestamp t => .string t.localText
  | date d => .string d.text
  | text s => .string s

/-- A value as JSON. A document that is malformed is null. -/
def Datum.toJson (bigIntAsNumber : Bool) : Datum → Json
  | scalar x => x.toJson bigIntAsNumber
  | list _ items => .array (items.map (·.toJson bigIntAsNumber))
  | json text | jsonb text => (Json.parse? text).getD .null

end PgCollections
