/-!
# Rounding quotients

The two rules by which a quotient of whole numbers is rounded to the nearest whole number. They
differ in what becomes of a half.
-/

namespace PgCollections

/-- The quotient rounded to the nearest whole number, a half to the even one. -/
def roundHalfEven (num den : Nat) : Nat :=
  let quotient := num / den
  let twice := 2 * (num % den)
  if twice > den ∨ (twice = den ∧ quotient % 2 = 1) then quotient + 1 else quotient

/-- The quotient rounded to the nearest whole number, a half to the larger one. -/
def roundHalfUp (num den : Nat) : Nat := (2 * num + den) / (2 * den)

end PgCollections
