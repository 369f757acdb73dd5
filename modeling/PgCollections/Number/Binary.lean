import PgCollections.Number.Rounding

/-!
# Binary floating-point formats

A `BinaryFormat` fixes how many significant bits and how many exponent bits a number has. Every
finite number of a format is a whole number of *units*, the smallest positive number of the format,
so that a magnitude is exact in `Nat`. `BinaryFormat.nearest` is the one rounding rule: to the
nearest number, a tie to the even one, and beyond the largest number to infinity.
-/

namespace PgCollections

/-- A binary format with `precision` significant bits, the leading one included. -/
structure BinaryFormat where
  precision : Nat
  exponentBits : Nat
deriving DecidableEq

namespace BinaryFormat

def double : BinaryFormat := ⟨53, 11⟩

def single : BinaryFormat := ⟨24, 8⟩

variable (f : BinaryFormat)

/-- One unit is `2 ^ (-unitScale)`. -/
def unitScale : Nat := Nat.pow 2 (f.exponentBits - 1) + f.precision - 3

/-- The magnitude of infinity; larger magnitudes are not numbers. -/
def infinity : Nat := (Nat.pow 2 f.exponentBits - 1) * Nat.pow 2 (f.precision - 1)

/-- The magnitude written for a result that is not a number. -/
def quietNaN : Nat := f.infinity + Nat.pow 2 (f.precision - 2)

/-- The value of the sign bit. -/
def signBit : Nat := Nat.pow 2 (f.exponentBits + f.precision - 1)

/-- The finite magnitude in units: a fraction field shifted by the exponent field. -/
def units (magnitude : Nat) : Nat :=
  let fraction := magnitude % Nat.pow 2 (f.precision - 1)
  match magnitude / Nat.pow 2 (f.precision - 1) with
  | 0 => fraction
  | exponent + 1 => (Nat.pow 2 (f.precision - 1) + fraction) * Nat.pow 2 exponent

/-- The magnitude nearest to `num / den` units. -/
def nearest (num den : Nat) : Nat :=
  let shift := (num / den).log2 + 1 - f.precision
  min f.infinity (shift * Nat.pow 2 (f.precision - 1) + roundHalfEven num (den * Nat.pow 2 shift))

/-- The magnitude nearest to `coefficient * 10 ^ exponent`. Exponents that lead to infinity or to
zero whatever the rounding are answered first, so that no power is larger than it has to be. -/
def ofDecimal (coefficient : Nat) (exponent : Int) : Nat :=
  if coefficient = 0 ∨ exponent < -(f.unitScale + coefficient.log2 + 1 : Nat) then 0
  else if f.unitScale < exponent then f.infinity
  else if exponent ≥ 0 then
    f.nearest (coefficient * Nat.pow 10 exponent.toNat * Nat.pow 2 f.unitScale) 1
  else f.nearest (coefficient * Nat.pow 2 f.unitScale) (Nat.pow 10 (-exponent).toNat)

/-- The product of two finite magnitudes, rounded. -/
def mul (a b : Nat) : Nat :=
  f.nearest (f.units a * f.units b) (Nat.pow 2 f.unitScale)

/-- The quotient of two finite magnitudes, the second not zero, rounded. -/
def div (a b : Nat) : Nat :=
  f.nearest (f.units a * Nat.pow 2 f.unitScale) (f.units b)

end BinaryFormat

/-- A number of a binary format: its sign, and its other bits as one number. -/
structure Binary (f : BinaryFormat) where
  negative : Bool
  magnitude : Nat
deriving DecidableEq

abbrev Double := Binary .double

abbrev Single := Binary .single

namespace Binary

variable {f : BinaryFormat}

def isFinite (x : Binary f) : Bool := x.magnitude < f.infinity

def isNaN (x : Binary f) : Bool := f.infinity < x.magnitude

/-- The not-a-number that arithmetic yields. -/
def nan : Binary f := ⟨false, f.quietNaN⟩

/-- The number nearest to a whole number. -/
def ofInt (n : Int) : Binary f := ⟨n < 0, f.ofDecimal n.natAbs 0⟩

/-- The bits of the interchange form. -/
def toBits (x : Binary f) : Nat :=
  (if x.negative then f.signBit else 0) + x.magnitude

/-- Reads the bits of the interchange form. -/
def ofBits (bits : Nat) : Binary f :=
  ⟨f.signBit ≤ bits % (2 * f.signBit), bits % f.signBit⟩

/-- The nearest number of another format. -/
def convert {f : BinaryFormat} (g : BinaryFormat) (x : Binary f) : Binary g :=
  if x.isNaN then ⟨x.negative, g.quietNaN⟩
  else if x.isFinite then
    ⟨x.negative, g.nearest (f.units x.magnitude * Nat.pow 2 g.unitScale) (Nat.pow 2 f.unitScale)⟩
  else ⟨x.negative, g.infinity⟩

end Binary

end PgCollections
