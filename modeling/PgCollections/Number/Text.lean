import PgCollections.Number.Binary
import PgCollections.Text.Scan

/-!
# Numbers as texts

How whole numbers and doubles are read from a text that a caller gave, beside their JSON form.
-/

namespace PgCollections

/-- An optional sign, and whether it is a minus. -/
def Scan.sign : Scan Bool := do
  if ← Scan.found '-' then return true
  discard <| Scan.found '+'
  return false

/-- The number with the given sign. -/
def signed (negative : Bool) (n : Nat) : Int := if negative then -n else n

/-- A whole number: an optional sign and digits. -/
def scanInt : Scan Int := do
  let negative ← Scan.sign
  return signed negative (digitsValue (← Scan.digits))

/-- The range of signed 64-bit numbers. -/
def fitsInt64 (n : Int) : Bool := -(Nat.pow 2 63 : Nat) ≤ n ∧ n < (Nat.pow 2 63 : Nat)

/-- An exponent: none, or a letter and a whole number. -/
def scanExponent : Scan Int := do
  if ← Scan.foundOneOf ['e', 'E'] then scanInt else return 0

/-- Digits with an optional point among them and an optional exponent. -/
def scanDecimal : Scan (Nat × Int) := do
  let whole ← Scan.span Char.isDigit
  let fraction ← if ← Scan.found '.' then Scan.span Char.isDigit else pure []
  if whole.isEmpty ∧ fraction.isEmpty then failure
  let exponent ← scanExponent
  return (digitsValue (whole ++ fraction), exponent - fraction.length)

/-- The magnitudes that have names, of which case does not matter. -/
def namedMagnitude? (cs : List Char) : Option Nat :=
  let name := String.ofList (cs.map Char.toLower)
  if name = "inf" ∨ name = "infinity" then some BinaryFormat.double.infinity
  else if name = "nan" then some BinaryFormat.double.quietNaN
  else none

/-- The rest of the text as a name. -/
def scanNamed : Scan Nat := fun cs => (namedMagnitude? cs).map (·, [])

/-- The double nearest to a decimal text, or a named one. -/
def Double.scan : Scan Double := do
  let negative ← Scan.sign
  let magnitude ← scanNamed <|> do
    let (coefficient, exponent) ← scanDecimal
    return BinaryFormat.double.ofDecimal coefficient exponent
  return ⟨negative, magnitude⟩

end PgCollections
