import PgCollections.Json.Basic

/-!
# Numbers in JSON texts

A number without fraction and exponent is a whole number when it lies between `-2 ^ 63` and
`2 ^ 64 - 1`. Any other number is a double, found in two rounding steps: the leading digits that
fit 64 bits give a double, which is then multiplied or divided by a power of ten. The result can
differ from the nearest double in its last bit; `Decimal` texts with few digits are read exactly.
-/

namespace PgCollections.Json

/-- Digits, and what follows them. -/
def takeDigits (cs : List Char) : List Char × List Char :=
  (cs.takeWhile Char.isDigit, cs.dropWhile Char.isDigit)

def maxSignificand : Nat := Nat.pow 2 64 - 1

/-- Appends digits to a significand while the result fits 64 bits, and gives the digits left. -/
def absorb (significand : Nat) : List Char → Nat × List Char
  | [] => (significand, [])
  | c :: cs =>
    let next := significand * 10 + (c.toNat - '0'.toNat)
    if next ≤ maxSignificand then absorb next cs else (significand, c :: cs)

/-- `significand * 10 ^ exponent` in two rounding steps; none when it exceeds all doubles. -/
def scale? (significand : Nat) (exponent : Int) : Option Nat :=
  let f := BinaryFormat.double
  let start := f.ofDecimal significand 0
  if exponent < 0 then
    let steps := exponent.natAbs
    let first := f.div start (f.ofDecimal 1 (min steps 308 : Nat))
    some (if steps ≤ 308 then first else f.div first (f.ofDecimal 1 (min (steps - 308) 308 : Nat)))
  else if significand = 0 then some 0
  else if exponent ≤ 308 then
    let scaled := f.mul start (f.ofDecimal 1 exponent)
    if scaled < f.infinity then some scaled else none
  else none

/-- The number with the given sign, whole digits, fraction digits and exponent. -/
def Number.ofParts? (negative : Bool) (whole : List Char) (fraction : Option (List Char))
    (exponent : Option Int) : Option Number :=
  let (significand, dropped) := absorb 0 whole
  if fraction.isNone ∧ exponent.isNone ∧ dropped.isEmpty ∧
      ¬ (negative ∧ (significand = 0 ∨ Nat.pow 2 63 < significand)) then
    some (.int (if negative then -significand else significand))
  else
    let digits := fraction.getD []
    let (significand, ignored) := absorb significand digits
    let shift : Int := dropped.length - (digits.length - ignored.length : Nat)
    (scale? significand (shift + exponent.getD 0)).map fun magnitude =>
      .float ⟨negative, magnitude⟩

/-- The fraction: absent, or a point and at least one digit. -/
def readFraction : List Char → Option (Option (List Char) × List Char)
  | '.' :: cs =>
    let (digits, rest) := takeDigits cs
    if digits.isEmpty then none else some (some digits, rest)
  | cs => some (none, cs)

/-- An optional sign: whether it is a minus, and what follows. -/
def readSign : List Char → Bool × List Char
  | '-' :: cs => (true, cs)
  | '+' :: cs => (false, cs)
  | cs => (false, cs)

/-- The exponent: absent, or the letter, an optional sign and at least one digit. -/
def readExponent : List Char → Option (Option Int × List Char)
  | c :: cs =>
    if c = 'e' ∨ c = 'E' then
      let (negative, cs) := readSign cs
      let (digits, rest) := takeDigits cs
      let size : Int := Nat.ofDigitChars 10 digits 0
      if digits.isEmpty then none else some (some (if negative then -size else size), rest)
    else some (none, c :: cs)
  | [] => some (none, [])

/-- Digits without a leading zero, a fraction and an exponent, and what follows them. -/
def readUnsigned (negative : Bool) (cs : List Char) : Option (Number × List Char) :=
  let (whole, cs) := takeDigits cs
  if whole.isEmpty ∨ (whole.head? = some '0' ∧ 1 < whole.length) then none
  else do
    let (fraction, cs) ← readFraction cs
    let (exponent, cs) ← readExponent cs
    let number ← Number.ofParts? negative whole fraction exponent
    some (number, cs)

/-- A number, and what follows it. -/
def readNumber : List Char → Option (Number × List Char)
  | '-' :: cs => readUnsigned true cs
  | cs => readUnsigned false cs

end PgCollections.Json
