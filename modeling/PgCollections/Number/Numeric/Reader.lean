import PgCollections.Number.Numeric.Basic
import PgCollections.Number.Text

/-!
# Exact decimals as texts

`Numeric.ofText?` reads a decimal, plain or with an exponent. Digits for which there is no room are
rounded off if they are decimals; before the point they make the text invalid.
-/

namespace PgCollections

namespace Numeric

/-! ### Plain decimals -/

/-- What is read of a plain decimal: the digits so far, and after a point how many of them are
decimals. -/
structure Reading where
  coefficient : Nat := 0
  decimals : Option Nat := none
  hasDigit : Bool := false

namespace Reading

def scale (p : Reading) : Nat := p.decimals.getD 0

/-- The digit appended. -/
def push (p : Reading) (digit : Nat) : Reading :=
  ⟨p.coefficient * 10 + digit, p.decimals.map (· + 1), true⟩

/-- The end of the text. -/
def finish? (negative : Bool) (p : Reading) : Option Numeric :=
  if p.hasDigit then make? negative p.coefficient p.scale else none

/-- A digit or a separator of digits. -/
def isDigitOrSeparator (c : Char) : Bool := c.isDigit || c = '_'

/-- Rounds at the first decimal for which there is no room: a digit from five on rounds up. A result
beyond the limit loses one more decimal. What follows makes no difference but has to be digits and
separators. -/
def round? (negative : Bool) (p : Reading) (c : Char) (rest : List Char) : Option Numeric :=
  if (c :: rest).all isDigitOrSeparator then
    let rounded := if '5' ≤ c ∧ c ≤ '9' then p.coefficient + 1 else p.coefficient
    if rounded ≤ maxCoefficient then make? negative rounded p.scale
    else if p.scale = 0 then none
    else make? negative ((rounded + 4) / 10) (p.scale - 1)
  else none

/-- Whether the digits before the last one outgrew a word of 64 bits, with some room to spare. -/
def isLong (p : Reading) : Bool := Nat.pow 2 64 / 10 - 255 ≤ p.coefficient / 10

/-- Reads digits, a point, and separators after a digit. The digit after the last decimal for which
there is room decides about rounding; a separator in its place is passed over if the digits are
many, and counts as a zero if they are few. -/
def read? (negative : Bool) (p : Reading) : List Char → Option Numeric
  | [] => p.finish? negative
  | c :: rest =>
    if p.decimals = some maxScale then
      if c = '_' ∧ p.isLong then p.read? negative rest else p.round? negative c rest
    else if c.isDigit then
      let next := p.push (c.toNat - '0'.toNat)
      if next.coefficient ≤ maxCoefficient then next.read? negative rest
      else if p.decimals.isSome then p.round? negative c rest
      else none
    else if c = '.' ∧ p.decimals.isNone then { p with decimals := some 0 }.read? negative rest
    else if c = '_' ∧ p.hasDigit then p.read? negative rest
    else none

end Reading

/-- A decimal without exponent. -/
def ofPlain? (cs : List Char) : Option Numeric := do
  let (negative, rest) ← Scan.sign.run cs
  ({} : Reading).read? negative rest

/-! ### Scientific decimals -/

/-- The size of an exponent: 32 bits, with an optional plus sign. -/
def exponentSize? (cs : List Char) : Option Nat :=
  let digits := match cs with
    | '+' :: rest => rest
    | _ => cs
  let size := digitsValue digits
  if digits.isEmpty ∨ ¬ digits.all Char.isDigit ∨ Nat.pow 2 32 ≤ size then none else some size

/-- The number over a power of ten. Decimals for which there is no room are rounded off. -/
def shiftDown? (x : Numeric) (size : Nat) : Option Numeric :=
  if size > maxScale then none
  else if x.scale + size ≤ maxScale then make? x.negative x.coefficient (x.scale + size)
  else make? x.negative (x.rescale (maxScale - size)).coefficient maxScale

/-- The number times a power of ten, which first uses up the decimals. -/
def shiftUp? (x : Numeric) (size : Nat) : Option Numeric :=
  if size ≤ x.scale then make? x.negative x.coefficient (x.scale - size)
  else if size ≤ maxScale then make? x.negative (x.coefficient * Nat.pow 10 (size - x.scale)) 0
  else none

/-- A plain decimal, the letter `e` and an exponent. -/
def ofScientific? (cs : List Char) : Option Numeric := do
  let isLetter := fun c => c = 'e' || c = 'E'
  let x ← ofPlain? (cs.takeWhile fun c => !isLetter c)
  match cs.dropWhile fun c => !isLetter c with
  | _ :: '-' :: rest => x.shiftDown? (← exponentSize? rest)
  | _ :: rest => x.shiftUp? (← exponentSize? rest)
  | [] => none

/-- A plain decimal or a scientific one. -/
def ofText? (cs : List Char) : Option Numeric := ofPlain? cs <|> ofScientific? cs

end Numeric

end PgCollections
