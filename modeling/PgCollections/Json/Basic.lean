import PgCollections.Keyed
import PgCollections.Number.Shortest

/-!
# JSON values

`Json` is the value type of parameters, row cells and filter operands. A number is a whole number
or a finite double and never both: `1` and `1.0` are different numbers. The fields of an object
keep their order.
-/

namespace PgCollections

inductive Json.Number where
  | int (n : Int)
  | float (x : Double)
deriving DecidableEq

inductive Json where
  | null
  | bool (b : Bool)
  | number (n : Json.Number)
  | string (s : String)
  | array (items : List Json)
  | object (fields : List (String × Json))
deriving Inhabited

/-- A row, or a set of changes: cell values by column name, in column order. -/
abbrev Row := Keyed Json

namespace Json

def int (n : Int) : Json := .number (.int n)

def nat (n : Nat) : Json := .int n

/-- The number, or null for an infinity and for what is not a number. -/
def ofDouble (x : Double) : Json :=
  if x.isFinite then .number (.float x) else .null

def isNull : Json → Bool
  | .null => true
  | _ => false

def asString? : Json → Option String
  | .string s => some s
  | _ => none

def asBool? : Json → Option Bool
  | .bool b => some b
  | _ => none

def asInt? : Json → Option Int
  | .number (.int n) => some n
  | _ => none

/-- A whole number from zero to `max`. -/
def asNat? (max : Nat) (v : Json) : Option Nat :=
  v.asInt?.bind fun n => if 0 ≤ n ∧ n ≤ max then some n.toNat else none

def asArray? : Json → Option (List Json)
  | .array items => some items
  | _ => none

def asObject? : Json → Option (List (String × Json))
  | .object fields => some fields
  | _ => none

/-- The field of an object. -/
def field? (v : Json) (name : String) : Option Json :=
  v.asObject?.bind fun fields => Keyed.get? fields name

end Json

end PgCollections
