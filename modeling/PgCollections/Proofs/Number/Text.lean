import PgCollections.Number.Text
import PgCollections.Proofs.Text.Taken

/-! # Whole numbers as texts

`IntText text n` says that a text is an optional sign and digits, any number of them, with the value
`n`.  The decimal text of a number is one of them (`intText_toString`).  They are read as their
values in front of whatever is no digit (`IntText.reads`), and nothing else is read as a whole
number (`scanInt_all?_eq_some_iff`). -/

namespace PgCollections

open Scan

/-! ### Decimal texts -/

theorem toList_toString (n : Int) :
    (toString n).toList =
      if 0 ≤ n then Nat.toDigits 10 n.toNat else '-' :: Nat.toDigits 10 (-n).toNat := by
  rw [Int.toString_eq_repr, Int.repr_eq_if]
  split
  case isTrue => exact Nat.toList_repr
  case isFalse =>
      rw [String.toList_append, Nat.toList_repr]
      rfl

/-! ### Signs and digits -/

/-- The signs, and whether they are a minus. -/
def signs : List (List Char × Bool) := [([], false), (['+'], false), (['-'], true)]

/-- The text is an optional sign and at least one digit, and this is its value. -/
inductive IntText : List Char → Int → Prop
  | intro {sign ds : List Char} {negative : Bool} (hsign : (sign, negative) ∈ signs)
      (hne : ds ≠ []) (hdigits : ∀ c ∈ ds, c.isDigit) :
      IntText (sign ++ ds) (signed negative (digitsValue ds))

/-- The decimal text of a number is a sign and digits. -/
theorem intText_toString (n : Int) : IntText (toString n).toList n := by
  have htext {sign : List Char} {negative : Bool} (hsign : (sign, negative) ∈ signs) (m : Nat) :
      IntText (sign ++ Nat.toDigits 10 m) (signed negative m) := by
    have hintro := IntText.intro hsign Nat.toDigits_ne_nil fun _ => isDigit_of_mem_toDigits (n := m)
    rwa [digitsValue_toDigits] at hintro
  rw [toList_toString]
  split
  case isTrue h =>
      have hint := htext (by decide : ([], false) ∈ signs) n.toNat
      rwa [signed, if_neg Bool.false_ne_true, Int.toNat_of_nonneg h] at hint
  case isFalse h =>
      have hint := htext (by decide : (['-'], true) ∈ signs) (-n).toNat
      rwa [signed, if_pos rfl, Int.toNat_of_nonneg (by omega), Int.neg_neg] at hint

namespace IntText

variable {text : List Char} {n : Int}

theorem ne_nil (h : IntText text n) : text ≠ [] := by
  obtain ⟨-, hne, -⟩ := h
  exact List.append_ne_nil_of_right_ne_nil _ hne

theorem sign_or_digit_of_mem (h : IntText text n) {c : Char} (hc : c ∈ text) :
    c = '+' ∨ c = '-' ∨ c.isDigit := by
  obtain ⟨hsign, -, hdigits⟩ := h
  rcases List.mem_append.mp hc with hfront | hdigit
  · have hall : ∀ entry ∈ signs, ∀ c ∈ entry.1, c = '+' ∨ c = '-' := by simp [signs]
    exact (hall _ hsign c hfront).imp_right .inl
  · exact .inr (.inr (hdigits c hdigit))

theorem isSpace_of_mem (h : IntText text n) {c : Char} (hc : c ∈ text) : isSpace c = false := by
  rcases h.sign_or_digit_of_mem hc with rfl | rfl | hdigit
  · rfl
  · rfl
  · exact isSpace_of_isDigit hdigit

theorem toNat_ne_zero_of_mem (h : IntText text n) {c : Char} (hc : c ∈ text) : c.toNat ≠ 0 := by
  rcases h.sign_or_digit_of_mem hc with rfl | rfl | hdigit
  · decide
  · decide
  · have hbounds := bounds_of_isDigit hdigit
    omega

/-- A number is smaller than a one with as many zeros as its text has characters. -/
theorem natAbs_lt (h : IntText text n) : n.natAbs < 10 ^ text.length := by
  cases h with
  | @intro sign ds negative _ _ hdigits =>
      have hvalue : (signed negative (digitsValue ds)).natAbs = digitsValue ds := by
        cases negative <;> simp [signed]
      calc (signed negative (digitsValue ds)).natAbs = digitsValue ds := hvalue
        _ < 10 ^ ds.length := digitsValue_lt hdigits
        _ ≤ 10 ^ (sign ++ ds).length := Nat.pow_le_pow_right (by decide) (by simp)

/-- Every text of a number has a digit. -/
theorem exists_digit (h : IntText text n) : ∃ c ∈ text, c.isDigit := by
  obtain ⟨-, hne, hdigits⟩ := h
  obtain ⟨c, hc⟩ := List.exists_mem_of_ne_nil _ hne
  exact ⟨c, List.mem_append_right _ hc, hdigits c hc⟩

end IntText

theorem isSpace_of_mem_toString {n : Int} {c : Char} (h : c ∈ (toString n).toList) :
    isSpace c = false :=
  (intText_toString n).isSpace_of_mem h

/-! ### Reading -/

theorem reads_minus (rest : List Char) : sign.Reads ['-'] true rest :=
  (reads_found '-' rest).before (reads_pure true rest)

theorem reads_plus (rest : List Char) : sign.Reads ['+'] false rest :=
  (reads_notFound (by simp)).after ((reads_found '+' rest).discard.before (reads_pure false rest))

theorem reads_noSign {rest : List Char} (hminus : rest.head? ≠ some '-')
    (hplus : rest.head? ≠ some '+') : sign.Reads [] false rest :=
  (reads_notFound hminus).before
    ((reads_notFound hplus).discard.before (reads_pure false rest))

/-- Each sign is read in front of digits. -/
theorem reads_sign {text ds : List Char} {negative : Bool} (hsign : (text, negative) ∈ signs)
    (hdigits : ∀ c ∈ ds, c.isDigit) (hne : ds ≠ []) (rest : List Char) :
    sign.Reads text negative (ds ++ rest) := by
  simp only [signs, List.mem_cons, Prod.mk.injEq, List.not_mem_nil, or_false] at hsign
  rcases hsign with ⟨rfl, rfl⟩ | ⟨rfl, rfl⟩ | ⟨rfl, rfl⟩
  · exact reads_noSign (head?_digits_ne rfl hdigits hne rest) (head?_digits_ne rfl hdigits hne rest)
  · exact reads_plus (ds ++ rest)
  · exact reads_minus (ds ++ rest)

theorem takes_sign : sign.Takes fun negative text => (text, negative) ∈ signs := by
  have hplus : (do discard <| found '+'; return false : Scan Bool).Takes fun negative text =>
      (text, negative) ∈ signs := by
    refine Takes.mono
      (((takes_found '+').bind fun hit => takes_pure ()).bind fun _ => takes_pure false) ?_
    rintro negative text ⟨_, front, back, rfl, ⟨hit, _, _, rfl, rfl, rfl, rfl⟩, rfl, rfl⟩
    cases hit <;> decide
  have hbranch (hit : Bool) : (if hit then pure true else do discard <| found '+'; return false :
      Scan Bool).Takes fun negative text =>
        if hit then negative = true ∧ text = [] else (text, negative) ∈ signs := by
    cases hit with
    | true => exact takes_pure true
    | false => exact hplus
  refine ((takes_found '-').bind hbranch).mono ?_
  rintro negative text ⟨hit, front, back, rfl, rfl, hback⟩
  cases hit with
  | true =>
      obtain ⟨rfl, rfl⟩ := hback
      decide
  | false => exact hback

/-- A sign and digits are read as their value in front of whatever is no digit. -/
theorem IntText.reads {text rest : List Char} {n : Int} (h : IntText text n)
    (hrest : Stops Char.isDigit rest) : scanInt.Reads text n rest := by
  obtain ⟨hsign, hne, hdigits⟩ := h
  exact (reads_sign hsign hdigits hne rest).seq ((reads_digits hdigits hne hrest).map _)

theorem reads_scanInt (n : Int) {rest : List Char} (hrest : Stops Char.isDigit rest) :
    scanInt.Reads (toString n).toList n rest :=
  (intText_toString n).reads hrest

/-- Nothing but a sign and digits is read as a whole number. -/
theorem takes_scanInt : scanInt.Takes fun n text => IntText text n := by
  have hvalue (negative : Bool) :
      (do return signed negative (digitsValue (← digits)) : Scan Int).Takes fun n text =>
        text ≠ [] ∧ (∀ c ∈ text, c.isDigit) ∧ n = signed negative (digitsValue text) := by
    refine (takes_digits.bind fun ds => takes_pure _).mono ?_
    rintro n text ⟨ds, front, back, rfl, ⟨rfl, hne, hdigits⟩, rfl, rfl⟩
    rw [List.append_nil]
    exact ⟨hne, hdigits, rfl⟩
  refine (takes_sign.bind hvalue).mono ?_
  rintro n text ⟨negative, sign, ds, rfl, hsign, hne, hdigits, rfl⟩
  exact .intro hsign hne hdigits

theorem scanInt_all?_eq_some_iff {cs : List Char} {n : Int} :
    scanInt.all? cs = some n ↔ IntText cs n := by
  constructor
  · exact takes_scanInt.of_all?
  · exact fun h => all?_eq_some (h.reads (stops_nil _))

end PgCollections
