import PgCollections.Number.Numeric.Basic

/-!
# Sums of decimal groups

A `Total` adds digits to base 10000 one after the other, each with the power of 10000 at which it
stands. After each step the total keeps within the limits of a `Numeric`: decimals for which there
is no room are rounded off, a half to the even neighbour.
-/

namespace PgCollections

namespace Numeric

/-- A sum so far: its coefficient with a sign, and its number of decimals. -/
structure Total where
  coefficient : Int := 0
  scale : Nat := 0

namespace Total

/-- The number without its last `count` decimals. A result that rounds up beyond the limit loses one
more. -/
def drop? (n scale count : Nat) : Option (Nat × Nat) :=
  let rounded := roundHalfEven n (Nat.pow 10 count)
  if rounded ≤ maxCoefficient then some (rounded, scale - count)
  else if count < scale then some (roundHalfEven rounded 10, scale - count - 1)
  else none

/-- The number with as many of its decimals as there is room for. -/
def fit? (n scale : Nat) : Option (Nat × Nat) := do
  let count ← (List.range (scale + 1)).find? fun count => n / Nat.pow 10 count ≤ maxCoefficient
  drop? n scale count

/-- A group at the power `weight` of 10000. Beyond the seventh power there is room for none. -/
def ofGroup? (group weight : Int) : Option Total :=
  if weight < -7 ∨ 7 < weight then none
  else
    let n := group * Nat.pow 10000 weight.toNat
    if n.natAbs ≤ maxCoefficient then some ⟨n, 4 * (-weight).toNat⟩ else none

/-- The sum of two totals. Zero leaves the other one as it is. -/
def add? (a b : Total) : Option Total :=
  if a.coefficient = 0 then some b
  else if b.coefficient = 0 then some a
  else do
    let scale := max a.scale b.scale
    let n := a.coefficient * Nat.pow 10 (scale - a.scale) +
      b.coefficient * Nat.pow 10 (scale - b.scale)
    let (kept, scale) ← fit? n.natAbs scale
    return ⟨n.sign * kept, scale⟩

/-- Adds groups to a total, the first of them at the power `weight`. -/
def addGroups? (total : Total) (weight : Int) : List Int → Option Total
  | [] => some total
  | group :: rest => do (← total.add? (← ofGroup? group weight)).addGroups? (weight - 1) rest

end Total

/-- The number that groups stand for, the first of them at the power `weight`, with the given sign
whatever the sign of their sum. -/
def ofGroups? (negative : Bool) (weight : Int) (groups : List Int) : Option Numeric :=
  (({} : Total).addGroups? weight groups).map fun total =>
    ⟨negative, total.coefficient.natAbs, total.scale⟩

end Numeric

end PgCollections
