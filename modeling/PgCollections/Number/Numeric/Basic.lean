import PgCollections.Number.Rounding
import PgCollections.Text.Scan

/-!
# Exact decimals

A `Numeric` is a decimal number of limited precision: a sign, a coefficient of at most 96 bits, and
a number of decimals. The number of decimals is part of it: `1.5` and `1.50` are different, and
`-0.0` keeps its sign.
-/

namespace PgCollections

structure Numeric where
  negative : Bool
  coefficient : Nat
  /-- The number of decimals. -/
  scale : Nat
deriving DecidableEq

namespace Numeric

def maxCoefficient : Nat := Nat.pow 2 96 - 1

/-- The most decimals that a text or a sum can bring. -/
def maxScale : Nat := 28

/-- The number, if it keeps within the limits. -/
def make? (negative : Bool) (coefficient scale : Nat) : Option Numeric :=
  if coefficient ≤ maxCoefficient ∧ scale ≤ maxScale then some ⟨negative, coefficient, scale⟩
  else none

/-- Exactly `scale` decimals. -/
def text (x : Numeric) : String :=
  let whole := Nat.toDigits 10 (x.coefficient / Nat.pow 10 x.scale)
  let fraction := paddedDigits x.scale (x.coefficient % Nat.pow 10 x.scale)
  (if x.negative then "-" else "") ++ String.ofList whole ++
    (if x.scale = 0 then "" else "." ++ String.ofList fraction)

/-! ### Changing the number of decimals -/

/-- `count` more decimals, or fewer if there is no room for so many. -/
def extend (x : Numeric) : Nat → Numeric
  | 0 => x
  | count + 1 =>
    let next : Numeric := ⟨x.negative, x.coefficient * 10, x.scale + 1⟩
    if next.coefficient ≤ maxCoefficient then next.extend count else x

/-- The number with `scale` decimals: of too many, the last ones are rounded off, a half away from
zero; of too few, as many are added as there is room for. -/
def rescale (x : Numeric) (scale : Nat) : Numeric :=
  if x.coefficient = 0 then ⟨x.negative, 0, min scale maxScale⟩
  else if scale < x.scale then
    ⟨x.negative, roundHalfUp x.coefficient (Nat.pow 10 (x.scale - scale)), scale⟩
  else x.extend (scale - x.scale)

end Numeric

end PgCollections
