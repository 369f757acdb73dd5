import PgCollections.Number.Binary

/-!
# The shortest decimal of a binary number

`Double.shortest` is the decimal with the fewest digits that reads back as the number, and of
those the nearest one. It is found by trying one digit, two digits and so on; the exact decimal
value has finitely many digits and always reads back.
-/

namespace PgCollections

/-- The number `coefficient * 10 ^ exponent`. -/
structure Decimal where
  coefficient : Nat
  exponent : Int
deriving DecidableEq

namespace Decimal

/-- Drops one trailing zero of the coefficient after the other, at most `count` of them. -/
def stripZeros : Nat → Decimal → Decimal
  | 0, d => d
  | count + 1, d =>
    if d.coefficient % 10 = 0 then stripZeros count ⟨d.coefficient / 10, d.exponent + 1⟩ else d

end Decimal

namespace BinaryFormat

variable (f : BinaryFormat)

/-- The magnitude as an exact decimal: a unit is `5 ^ unitScale * 10 ^ (-unitScale)`. -/
def exactDecimal (magnitude : Nat) : Decimal :=
  ⟨f.units magnitude * Nat.pow 5 f.unitScale, -(f.unitScale : Int)⟩

/-- Of the two multiples of `10 ^ cut` around `exact` those that read back as `magnitude`, the
nearer one first and of two equally near the even one. -/
def neighbours (magnitude exact cut : Nat) : List Decimal :=
  let step := Nat.pow 10 cut
  let lower := exact / step
  let belowHalf := 2 * (exact % step)
  let ordered :=
    if belowHalf < step ∨ (belowHalf = step ∧ lower % 2 = 0) then [lower, lower + 1]
    else [lower + 1, lower]
  (ordered.map fun c => ⟨c, (cut : Int) - f.unitScale⟩).filter fun d =>
    f.ofDecimal d.coefficient d.exponent = magnitude

/-- Cuts ever fewer digits off `exact` until a neighbour reads back. -/
def search (magnitude exact : Nat) : Nat → Decimal
  | 0 => ⟨exact, -(f.unitScale : Int)⟩
  | cut + 1 =>
    match f.neighbours magnitude exact (cut + 1) with
    | d :: _ => d
    | [] => search magnitude exact cut

/-- The decimal with the fewest digits that reads back as the finite magnitude. -/
def shortest (magnitude : Nat) : Decimal :=
  let exact := (f.exactDecimal magnitude).coefficient
  let length := (Nat.toDigits 10 exact).length
  (f.search magnitude exact (length - 1)).stripZeros length

end BinaryFormat

/-- The digits, with a point and at least one digit on either side of it, for `d.ddd * 10 ^ k`
with `-5 ≤ k < 16`; the scientific form with a signed exponent for all others. -/
def Decimal.layout (d : Decimal) : String :=
  let digits := Nat.toDigits 10 d.coefficient
  let k : Int := d.exponent + digits.length - 1
  if -5 ≤ k ∧ k < 16 then
    if k < 0 then
      "0." ++ String.ofList (List.replicate (-k - 1).toNat '0' ++ digits)
    else
      let whole := (k + 1).toNat
      let padded := digits ++ List.replicate (whole - digits.length) '0'
      let fraction := digits.drop whole
      String.ofList (padded.take whole) ++ "." ++
        (if fraction.isEmpty then "0" else String.ofList fraction)
  else
    let fraction := digits.drop 1
    String.ofList (digits.take 1) ++
      (if fraction.isEmpty then "" else "." ++ String.ofList fraction) ++
      "e" ++ (if k < 0 then "-" else "+") ++ toString k.natAbs

/-- The text of a finite number: the shortest digits that read back, in `Decimal.layout`. -/
def Double.text (x : Double) : String :=
  (if x.negative then "-" else "") ++
    (if x.magnitude = 0 then "0.0" else (BinaryFormat.double.shortest x.magnitude).layout)

end PgCollections
