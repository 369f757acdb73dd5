import PgCollections.Number.Numeric.Reader
import PgCollections.Proofs.Number.Text

/-! # Exact decimals read from their texts

A `Numeric` within the limits, a coefficient of 96 bits and 28 decimals, is read as it was written,
with its sign and with all its decimals (`Numeric.ofText?_text`).  No digit of such a number is
rounded off: the coefficient of the digits so far never exceeds that of all digits
(`le_ofDigitChars`), and the point comes before the last decimal for which there is room.  Whatever
is read of any text is within the limits (`Numeric.isLimited_of_ofText?`). -/

namespace PgCollections

open Scan

namespace Numeric

/-- The number is within the limits. -/
def isLimited (x : Numeric) : Bool := x.coefficient ≤ maxCoefficient ∧ x.scale ≤ maxScale

theorem make?_eq_some_iff {negative : Bool} {coefficient scale : Nat} {x : Numeric} :
    make? negative coefficient scale = some x ↔
      x = ⟨negative, coefficient, scale⟩ ∧ x.isLimited := by
  unfold make?
  constructor
  · intro h
    split at h
    case isTrue hlimits =>
        obtain rfl := Option.some.inj h
        exact ⟨rfl, decide_eq_true hlimits⟩
    case isFalse => cases h
  · rintro ⟨rfl, hlimits⟩
    exact if_pos (of_decide_eq_true hlimits)

/-! ### Digits -/

namespace Reading

/-- What is read after some more digits. -/
def pushAll (p : Reading) (ds : List Char) : Reading :=
  ds.foldl (fun p c => p.push (c.toNat - '0'.toNat)) p

theorem pushAll_cons (p : Reading) (c : Char) (ds : List Char) :
    p.pushAll (c :: ds) = (p.push (c.toNat - '0'.toNat)).pushAll ds := by
  unfold pushAll
  rw [List.foldl_cons]

theorem pushAll_eq (p : Reading) {ds : List Char} (hne : ds ≠ []) :
    p.pushAll ds =
      ⟨Nat.ofDigitChars 10 ds p.coefficient, p.decimals.map (· + ds.length), true⟩ := by
  induction ds generalizing p with
  | nil => exact absurd rfl hne
  | cons c ds ih =>
      rw [pushAll_cons]
      by_cases hds : ds = []
      · subst hds
        simp [pushAll, push, Nat.ofDigitChars_cons, Nat.mul_comm]
      · rw [ih _ hds, Nat.ofDigitChars_cons, push, Nat.mul_comm, Option.map_map]
        congr 2
        funext decimals
        simp only [Function.comp_apply, List.length_cons]
        omega

/-- Digits for which there is room are taken one after the other. -/
theorem read?_digits (negative : Bool) {ds : List Char} (h : ∀ c ∈ ds, c.isDigit) (p : Reading)
    (hroom : Nat.ofDigitChars 10 ds p.coefficient ≤ maxCoefficient)
    (hdecimals : ∀ n ∈ p.decimals, n + ds.length ≤ maxScale) (rest : List Char) :
    p.read? negative (ds ++ rest) = (p.pushAll ds).read? negative rest := by
  induction ds generalizing p with
  | nil => rfl
  | cons c ds ih =>
      have hdigit : c.isDigit := h c List.mem_cons_self
      have hspare : p.decimals ≠ some maxScale := by
        intro hfull
        have hlast := hdecimals maxScale hfull
        rw [List.length_cons] at hlast
        omega
      have hcoefficient : (p.push (c.toNat - '0'.toNat)).coefficient =
          10 * p.coefficient + (c.toNat - '0'.toNat) := by
        rw [push, Nat.mul_comm]
      have hnext : (p.push (c.toNat - '0'.toNat)).coefficient ≤ maxCoefficient := by
        rw [hcoefficient]
        rw [Nat.ofDigitChars_cons] at hroom
        exact (le_ofDigitChars ds _).trans hroom
      rw [List.cons_append, read?, if_neg hspare, if_pos hdigit]
      dsimp only
      rw [if_pos hnext, pushAll_cons]
      apply ih
      · intro d hd
        exact h d (List.mem_cons_of_mem c hd)
      · rw [hcoefficient]
        rwa [Nat.ofDigitChars_cons] at hroom
      · intro n hn
        obtain ⟨m, hm, rfl⟩ := Option.map_eq_some_iff.mp hn
        have hlast := hdecimals m hm
        rw [List.length_cons] at hlast
        omega

/-- After the digits before the point come those behind it. -/
theorem read?_point (negative : Bool) {p : Reading} (hp : p.decimals = none) (rest : List Char) :
    p.read? negative ('.' :: rest) = { p with decimals := some 0 }.read? negative rest := by
  have hspare : p.decimals ≠ some maxScale := by simp [hp]
  rw [read?, if_neg hspare, if_neg (by decide), if_pos ⟨rfl, by simp [hp]⟩]

end Reading

/-! ### Texts -/

/-- The digits of a number before the point, and those behind it. -/
def wholeDigits (x : Numeric) : List Char := Nat.toDigits 10 (x.coefficient / 10 ^ x.scale)

def fractionDigits (x : Numeric) : List Char := paddedDigits x.scale (x.coefficient % 10 ^ x.scale)

/-- The characters of a number. -/
theorem toList_text (x : Numeric) : x.text.toList =
    (if x.negative then ['-'] else []) ++
      (x.wholeDigits ++ if x.scale = 0 then [] else '.' :: x.fractionDigits) := by
  unfold text wholeDigits fractionDigits
  simp only [Nat.pow_eq, String.toList_append, String.toList_ofList, List.append_assoc]
  split <;> split <;> simp

theorem isDigit_of_mem_wholeDigits {x : Numeric} {c : Char} (h : c ∈ x.wholeDigits) : c.isDigit :=
  isDigit_of_mem_toDigits h

theorem isDigit_of_mem_fractionDigits {x : Numeric} {c : Char} (h : c ∈ x.fractionDigits) :
    c.isDigit :=
  isDigit_of_mem_paddedDigits h

theorem length_fractionDigits {x : Numeric} (h : 0 < x.scale) :
    x.fractionDigits.length = x.scale :=
  length_paddedDigits h (Nat.mod_lt _ (Nat.pow_pos (by decide)))

/-- The digits before the point and those behind it are the digits of the coefficient. -/
theorem ofDigitChars_digits {x : Numeric} (h : 0 < x.scale) :
    Nat.ofDigitChars 10 x.fractionDigits (Nat.ofDigitChars 10 x.wholeDigits 0) =
      x.coefficient := by
  have hwhole : Nat.ofDigitChars 10 x.wholeDigits 0 = x.coefficient / 10 ^ x.scale :=
    digitsValue_toDigits _
  have hfraction : Nat.ofDigitChars 10 x.fractionDigits 0 = x.coefficient % 10 ^ x.scale :=
    digitsValue_paddedDigits _ _
  rw [hwhole, Nat.ofDigitChars_eq_ofDigitChars_zero, hfraction, length_fractionDigits h]
  exact Nat.div_add_mod _ _

theorem isSpace_of_mem_text {x : Numeric} {c : Char} (h : c ∈ x.text.toList) :
    isSpace c = false := by
  rw [toList_text] at h
  have hcases : c = '-' ∨ c = '.' ∨ c.isDigit := by
    rcases List.mem_append.mp h with hsign | hnumber
    · split at hsign
      · exact .inl (List.mem_singleton.mp hsign)
      · cases hsign
    · rcases List.mem_append.mp hnumber with hwhole | hfraction
      · exact .inr (.inr (isDigit_of_mem_wholeDigits hwhole))
      · split at hfraction
        · cases hfraction
        · rcases List.mem_cons.mp hfraction with hpoint | hdigit
          · exact .inr (.inl hpoint)
          · exact .inr (.inr (isDigit_of_mem_fractionDigits hdigit))
  rcases hcases with rfl | rfl | hdigit
  · decide
  · decide
  · exact isSpace_of_isDigit hdigit

/-! ### Reading -/

/-- The digits of a number within the limits, with the point among them, are read as the number. -/
theorem read?_digits_text {x : Numeric} (h : x.isLimited) :
    ({} : Reading).read? x.negative
      (x.wholeDigits ++ if x.scale = 0 then [] else '.' :: x.fractionDigits) = some x := by
  have hlimits := of_decide_eq_true h
  have hmake : make? x.negative x.coefficient x.scale = some x :=
    make?_eq_some_iff.mpr ⟨rfl, h⟩
  have hdigits : ∀ c ∈ x.wholeDigits, c.isDigit := fun _ => isDigit_of_mem_wholeDigits
  have hwhole : Nat.ofDigitChars 10 x.wholeDigits 0 = x.coefficient / 10 ^ x.scale :=
    digitsValue_toDigits _
  have hroom : Nat.ofDigitChars 10 x.wholeDigits 0 ≤ maxCoefficient := by
    rw [hwhole]
    exact (Nat.div_le_self _ _).trans hlimits.1
  have hne : x.wholeDigits ≠ [] := Nat.toDigits_ne_nil
  rw [Reading.read?_digits x.negative hdigits {} hroom (by simp), Reading.pushAll_eq _ hne]
  by_cases hscale : x.scale = 0
  · rw [if_pos hscale, Reading.read?, Reading.finish?, if_pos rfl]
    have hcoefficient : Nat.ofDigitChars 10 x.wholeDigits 0 = x.coefficient := by
      rw [hwhole, hscale, Nat.pow_zero, Nat.div_one]
    rw [hscale] at hmake
    simpa [Reading.scale, hcoefficient] using hmake
  · have hpositive : 0 < x.scale := Nat.pos_of_ne_zero hscale
    have hfraction : ∀ c ∈ x.fractionDigits, c.isDigit := fun _ => isDigit_of_mem_fractionDigits
    have hlength := length_fractionDigits hpositive
    have hfractionNe : x.fractionDigits ≠ [] := by
      rw [← List.length_pos_iff, hlength]
      exact hpositive
    have hcoefficient := ofDigitChars_digits hpositive
    rw [if_neg hscale, Reading.read?_point x.negative rfl]
    have hread := Reading.read?_digits x.negative hfraction
      { coefficient := Nat.ofDigitChars 10 x.wholeDigits 0, decimals := some 0, hasDigit := true }
      (by rw [hcoefficient]; exact hlimits.1) (by simpa [hlength] using hlimits.2) []
    rw [List.append_nil] at hread
    rw [hread, Reading.pushAll_eq _ hfractionNe, Reading.read?, Reading.finish?, if_pos rfl,
      hcoefficient]
    simpa [Reading.scale, hlength] using hmake

/-- A number within the limits is read as it was written. -/
theorem ofText?_text {x : Numeric} (h : x.isLimited) : ofText? x.text.toList = some x := by
  have hread := read?_digits_text h
  have hhead {d : Char} (hd : d.isDigit = false) (rest : List Char) :
      (x.wholeDigits ++ rest).head? ≠ some d :=
    head?_digits_ne hd (fun _ => isDigit_of_mem_wholeDigits) Nat.toDigits_ne_nil rest
  have hplain : ofPlain? x.text.toList = some x := by
    rw [toList_text, ofPlain?]
    cases hsign : x.negative with
    | true =>
        rw [if_pos rfl, reads_minus]
        rw [hsign] at hread
        exact hread
    | false =>
        rw [if_neg Bool.false_ne_true, reads_noSign (hhead rfl _) (hhead rfl _)]
        rw [hsign] at hread
        exact hread
  rw [ofText?, hplain]
  rfl

/-! ### Limits -/

theorem isLimited_of_make? {negative : Bool} {coefficient scale : Nat} {x : Numeric}
    (h : make? negative coefficient scale = some x) : x.isLimited :=
  (make?_eq_some_iff.mp h).2

namespace Reading

theorem isLimited_of_round? {negative : Bool} {p : Reading} {c : Char} {rest : List Char}
    {x : Numeric} (h : p.round? negative c rest = some x) : x.isLimited := by
  unfold round? at h
  split at h
  case isTrue =>
      -- The rounded coefficient is kept, or loses one more decimal if there is one.
      generalize (if '5' ≤ c ∧ c ≤ '9' then p.coefficient + 1 else p.coefficient) = rounded at h
      dsimp only at h
      split at h
      case isTrue => exact isLimited_of_make? h
      case isFalse =>
          split at h
          case isTrue => cases h
          case isFalse => exact isLimited_of_make? h
  case isFalse => cases h

theorem isLimited_of_read? {negative : Bool} {p : Reading} {cs : List Char} {x : Numeric}
    (h : p.read? negative cs = some x) : x.isLimited := by
  induction cs generalizing p with
  | nil =>
      rw [read?, finish?] at h
      split at h
      case isTrue => exact isLimited_of_make? h
      case isFalse => cases h
  | cons c cs ih =>
      rw [read?] at h
      dsimp only at h
      split at h
      case isTrue =>
          -- There is room for no more decimals.
          split at h
          case isTrue => exact ih h
          case isFalse => exact isLimited_of_round? h
      case isFalse =>
          split at h
          case isTrue =>
              split at h
              case isTrue => exact ih h
              case isFalse =>
                  split at h
                  case isTrue => exact isLimited_of_round? h
                  case isFalse => cases h
          case isFalse =>
              split at h
              case isTrue => exact ih h
              case isFalse =>
                  split at h
                  case isTrue => exact ih h
                  case isFalse => cases h

end Reading

theorem isLimited_of_ofPlain? {cs : List Char} {x : Numeric} (h : ofPlain? cs = some x) :
    x.isLimited := by
  obtain ⟨⟨negative, rest⟩, -, hread⟩ := Option.bind_eq_some_iff.mp h
  exact Reading.isLimited_of_read? hread

theorem isLimited_of_shiftDown? {x y : Numeric} {size : Nat} (h : x.shiftDown? size = some y) :
    y.isLimited := by
  unfold shiftDown? at h
  split at h
  case isTrue => cases h
  case isFalse =>
      split at h
      case isTrue => exact isLimited_of_make? h
      case isFalse => exact isLimited_of_make? h

theorem isLimited_of_shiftUp? {x y : Numeric} {size : Nat} (h : x.shiftUp? size = some y) :
    y.isLimited := by
  unfold shiftUp? at h
  split at h
  case isTrue => exact isLimited_of_make? h
  case isFalse =>
      split at h
      case isTrue => exact isLimited_of_make? h
      case isFalse => cases h

theorem isLimited_of_ofScientific? {cs : List Char} {x : Numeric}
    (h : ofScientific? cs = some x) : x.isLimited := by
  obtain ⟨base, -, hshift⟩ := Option.bind_eq_some_iff.mp h
  split at hshift
  case h_1 =>
      obtain ⟨size, -, hdown⟩ := Option.bind_eq_some_iff.mp hshift
      exact isLimited_of_shiftDown? hdown
  case h_2 =>
      obtain ⟨size, -, hup⟩ := Option.bind_eq_some_iff.mp hshift
      exact isLimited_of_shiftUp? hup
  case h_3 => cases hshift

/-- Whatever is read of a text is within the limits. -/
theorem isLimited_of_ofText? {cs : List Char} {x : Numeric} (h : ofText? cs = some x) :
    x.isLimited := by
  unfold ofText? at h
  cases hplain : ofPlain? cs with
  | some y =>
      rw [hplain] at h
      obtain rfl := Option.some.inj h
      exact isLimited_of_ofPlain? hplain
  | none =>
      rw [hplain] at h
      exact isLimited_of_ofScientific? h

end Numeric

end PgCollections
