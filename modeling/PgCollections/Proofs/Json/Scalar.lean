import PgCollections.Json.Printer
import PgCollections.Json.Reader
import PgCollections.Proofs.Number.Text
import PgCollections.Proofs.Text.Hex

/-! # JSON strings and numbers read back

A string is read as it was written, escapes included (`Json.readString_escaped`).  A number is read
as soon as what follows its text does not go on with a number (`Json.readNumber_append`); whole
numbers for which there is room are read as they were written (`Json.Number.isExact_int`), and no
other whole number is ever read (`Json.fits_of_readNumber`).  The text of a double need not be read
as that double, since the reader rounds twice: `Json.Number.isExact` tells the numbers that are. -/

namespace PgCollections.Json

open Scan

/-! ### Strings -/

/-- A character inside a string is written as a backslash and a letter, by its number, or as
itself. -/
theorem escapeChar_cases (c : Char) :
    (∃ letter, escapeChar c = ['\\', letter] ∧ unescapeChar? letter = some c) ∨
      (c.toNat < 32 ∧
        escapeChar c = ['\\', 'u', '0', '0', hexDigit (c.toNat / 16), hexDigit (c.toNat % 16)]) ∨
      (escapeChar c = [c] ∧ c ≠ '"' ∧ c ≠ '\\' ∧ 32 ≤ c.toNat) := by
  by_cases hquote : c = '"'
  · subst hquote
    exact .inl ⟨'"', by decide, by decide⟩
  by_cases hbackslash : c = '\\'
  · subst hbackslash
    exact .inl ⟨'\\', by decide, by decide⟩
  by_cases hcontrol : c ∈ ['\x08', '\t', '\n', '\x0c', '\r']
  · simp only [List.mem_cons, List.not_mem_nil, or_false] at hcontrol
    rcases hcontrol with rfl | rfl | rfl | rfl | rfl
    · exact .inl ⟨'b', by decide, by decide⟩
    · exact .inl ⟨'t', by decide, by decide⟩
    · exact .inl ⟨'n', by decide, by decide⟩
    · exact .inl ⟨'f', by decide, by decide⟩
    · exact .inl ⟨'r', by decide, by decide⟩
  simp only [List.mem_cons, List.not_mem_nil, or_false, not_or] at hcontrol
  obtain ⟨hb, ht, hn, hf, hr⟩ := hcontrol
  by_cases hlow : c.toNat < 32
  · refine .inr (.inl ⟨hlow, ?_⟩)
    simp [escapeChar, hquote, hbackslash, hb, ht, hn, hf, hr, hlow]
  · refine .inr (.inr ⟨?_, hquote, hbackslash, by omega⟩)
    simp [escapeChar, hquote, hbackslash, hb, ht, hn, hf, hr, hlow]

theorem hexDigit_plain {n : Nat} (h : n < 16) : hexDigit n ≠ '"' ∧ hexDigit n ≠ '\\' := by
  have hall : ∀ n < 16, hexDigit n ≠ '"' ∧ hexDigit n ≠ '\\' := by decide
  exact hall n h

theorem hexNat?_control {n : Nat} (h : n < 32) :
    hexNat? ['0', '0', hexDigit (n / 16), hexDigit (n % 16)] = some n := by
  have hall : ∀ n < 32, hexNat? ['0', '0', hexDigit (n / 16), hexDigit (n % 16)] = some n := by
    decide
  exact hall n h

theorem spanString_plain {c : Char} (hquote : c ≠ '"') (hbackslash : c ≠ '\\')
    (rest : List Char) :
    spanString (c :: rest) = (spanString rest).map fun (chars, rest) => (c :: chars, rest) := by
  rw [spanString]
  · exact hquote
  · intro h
    exact absurd h hbackslash
  · intro d rest h
    exact absurd h hbackslash

/-- The written form of a string ends with the first quote that is not escaped. -/
theorem spanString_escaped (s rest : List Char) :
    spanString (s.flatMap escapeChar ++ '"' :: rest) = some (s.flatMap escapeChar, rest) := by
  induction s with
  | nil => rfl
  | cons c s ih =>
      rw [List.flatMap_cons, List.append_assoc]
      rcases escapeChar_cases c with ⟨letter, hc, -⟩ | ⟨hlow, hc⟩ | ⟨hc, hquote, hbackslash, -⟩
      · rw [hc]
        simp [spanString, ih]
      · have hhigh := hexDigit_plain (n := c.toNat / 16) (by omega)
        have hdigit := hexDigit_plain (n := c.toNat % 16) (by omega)
        rw [hc]
        simp [spanString, spanString_plain hhigh.1 hhigh.2, spanString_plain hdigit.1 hdigit.2, ih]
      · rw [hc, List.singleton_append, spanString_plain hquote hbackslash, ih]
        rfl

/-- The written form of a string stands for the string. -/
theorem unescape_escaped (s : List Char) : unescape (s.flatMap escapeChar) = some s := by
  induction s with
  | nil => rfl
  | cons c s ih =>
      rw [List.flatMap_cons]
      rcases escapeChar_cases c with ⟨letter, hc, hletter⟩ | ⟨hlow, hc⟩ | ⟨hc, -, hbackslash, hhigh⟩
      · -- No letter is the one that begins a number.
        have hnumber : letter ≠ 'u' := by
          rintro rfl
          cases hletter
        rw [hc]
        simp [unescape, ih, hletter, hnumber]
      · have hunit := hexNat?_control hlow
        have hsurrogates : isHighSurrogate c.toNat = false ∧ isLowSurrogate c.toNat = false := by
          simp only [isHighSurrogate, isLowSurrogate, Bool.and_eq_false_iff,
            decide_eq_false_iff_not]
          omega
        rw [hc]
        simp [unescape, hunit, hsurrogates.1, hsurrogates.2, ih]
      · rw [hc]
        simp [unescape, ih, hbackslash, hhigh]

/-- A string is read as it was written. -/
theorem readString_escaped (s : String) (rest : List Char) :
    readString (s.toList.flatMap escapeChar ++ '"' :: rest) = some (s, rest) := by
  rw [readString, spanString_escaped]
  simp only [Option.bind_eq_bind, Option.bind_some, unescape_escaped, String.ofList_toList]

/-! ### Numbers in front of a rest -/

/-- A character that a number may go on with. -/
def isNumberChar (c : Char) : Bool := c.isDigit || c ∈ ['.', 'e', 'E', '+', '-']

theorem stops_isDigit {rest : List Char} (h : Stops isNumberChar rest) :
    Stops Char.isDigit rest := by
  intro c hc
  have hkind := h c hc
  unfold isNumberChar at hkind
  exact (Bool.or_eq_false_iff.mp hkind).1

theorem head?_ne_of_stops {rest : List Char} (h : Stops isNumberChar rest) {c : Char}
    (hc : c ∈ ['.', 'e', 'E', '+', '-']) : rest.head? ≠ some c := by
  intro hhead
  have hkind := h c hhead
  unfold isNumberChar at hkind
  have hmem := (Bool.or_eq_false_iff.mp hkind).2
  exact absurd hc (of_decide_eq_false hmem)

theorem takeDigits_append (cs : List Char) {rest : List Char} (h : Stops Char.isDigit rest) :
    takeDigits (cs ++ rest) = ((takeDigits cs).1, (takeDigits cs).2 ++ rest) := by
  induction cs with
  | nil =>
      have hnone : ∀ c ∈ ([] : List Char), c.isDigit := by simp
      have htake := takeWhile_append hnone h
      have hdrop := dropWhile_append hnone h
      rw [takeDigits, htake, hdrop]
      rfl
  | cons c cs ih =>
      simp only [takeDigits, Prod.mk.injEq] at ih ⊢
      by_cases hc : c.isDigit
      · simp [hc, ih.1, ih.2]
      · simp [hc]

theorem readFraction_append (cs : List Char) {rest : List Char} (h : Stops isNumberChar rest) :
    readFraction (cs ++ rest) =
      (readFraction cs).map fun (fraction, left) => (fraction, left ++ rest) := by
  cases cs with
  | nil =>
      cases rest with
      | nil => rfl
      | cons c rest =>
          have hc : c ≠ '.' := by
            rintro rfl
            exact head?_ne_of_stops h (by decide) rfl
          simp [readFraction, hc]
  | cons c cs =>
      by_cases hc : c = '.'
      · subst hc
        rw [List.cons_append, readFraction, readFraction, takeDigits_append cs (stops_isDigit h)]
        dsimp only
        split <;> rfl
      · simp [readFraction, hc]

theorem readSign_append (cs : List Char) {rest : List Char} (h : Stops isNumberChar rest) :
    readSign (cs ++ rest) = ((readSign cs).1, (readSign cs).2 ++ rest) := by
  cases cs with
  | nil =>
      cases rest with
      | nil => rfl
      | cons c rest =>
          have hminus : c ≠ '-' := by
            rintro rfl
            exact head?_ne_of_stops h (by decide) rfl
          have hplus : c ≠ '+' := by
            rintro rfl
            exact head?_ne_of_stops h (by decide) rfl
          simp [readSign, hminus, hplus]
  | cons c cs =>
      by_cases hminus : c = '-'
      · subst hminus
        rfl
      · by_cases hplus : c = '+'
        · subst hplus
          rfl
        · simp [readSign, hminus, hplus]

theorem readExponent_append (cs : List Char) {rest : List Char} (h : Stops isNumberChar rest) :
    readExponent (cs ++ rest) =
      (readExponent cs).map fun (exponent, left) => (exponent, left ++ rest) := by
  cases cs with
  | nil =>
      cases rest with
      | nil => rfl
      | cons c rest =>
          have hletter : ¬(c = 'e' ∨ c = 'E') := by
            rintro (rfl | rfl)
            · exact head?_ne_of_stops h (by decide) rfl
            · exact head?_ne_of_stops h (by decide) rfl
          rw [List.nil_append, readExponent, if_neg hletter]
          rfl
  | cons c cs =>
      by_cases hletter : c = 'e' ∨ c = 'E'
      · rw [List.cons_append, readExponent, if_pos hletter, readExponent, if_pos hletter,
          readSign_append cs h]
        dsimp only
        rw [takeDigits_append _ (stops_isDigit h)]
        dsimp only
        split <;> rfl
      · rw [List.cons_append, readExponent, if_neg hletter, readExponent, if_neg hletter]
        rfl

theorem readUnsigned_append (negative : Bool) (cs : List Char) {rest : List Char}
    (h : Stops isNumberChar rest) :
    readUnsigned negative (cs ++ rest) =
      (readUnsigned negative cs).map fun (n, left) => (n, left ++ rest) := by
  unfold readUnsigned
  rw [takeDigits_append cs (stops_isDigit h)]
  dsimp only
  split
  · rfl
  · rw [readFraction_append _ h]
    cases readFraction (takeDigits cs).2 with
    | none => rfl
    | some fraction =>
        simp only [Option.map_some, Option.bind_eq_bind, Option.bind_some]
        rw [readExponent_append _ h]
        cases readExponent fraction.2 with
        | none => rfl
        | some exponent =>
            simp only [Option.map_some, Option.bind_some]
            cases Number.ofParts? negative (takeDigits cs).1 fraction.1 exponent.1 with
            | none => rfl
            | some n => rfl

/-- A number that a text begins with is read whatever follows the text, as long as it does not go on
with the number. -/
theorem readNumber_append {cs rest : List Char} (h : Stops isNumberChar rest) :
    readNumber (cs ++ rest) = (readNumber cs).map fun (n, left) => (n, left ++ rest) := by
  cases cs with
  | nil =>
      cases rest with
      | nil => rfl
      | cons c rest =>
          have hminus : c ≠ '-' := by
            rintro rfl
            exact head?_ne_of_stops h (by decide) rfl
          have hread : readNumber (c :: rest) = readUnsigned false (c :: rest) := by
            simp [readNumber, hminus]
          rw [List.nil_append, hread]
          exact readUnsigned_append false [] h
  | cons c cs =>
      by_cases hminus : c = '-'
      · subst hminus
        exact readUnsigned_append true cs h
      · have hread (more : List Char) :
            readNumber (c :: more) = readUnsigned false (c :: more) := by
          simp [readNumber, hminus]
        rw [List.cons_append, hread, hread]
        exact readUnsigned_append false (c :: cs) h

/-! ### Whole numbers -/

theorem absorb_digits {ds : List Char} {n : Nat}
    (h : Nat.ofDigitChars 10 ds n ≤ maxSignificand) :
    absorb n ds = (Nat.ofDigitChars 10 ds n, []) := by
  induction ds generalizing n with
  | nil => rfl
  | cons c ds ih =>
      rw [Nat.ofDigitChars_cons] at h ⊢
      have hnext : n * 10 + (c.toNat - '0'.toNat) ≤ maxSignificand := by
        rw [Nat.mul_comm]
        exact (le_ofDigitChars ds _).trans h
      rw [absorb, if_pos hnext, Nat.mul_comm]
      exact ih h

theorem takeDigits_digits {ds : List Char} (h : ∀ c ∈ ds, c.isDigit) :
    takeDigits ds = (ds, []) := by
  have htake := takeWhile_append h (stops_nil _)
  have hdrop := dropWhile_append h (stops_nil _)
  rw [List.append_nil] at htake hdrop
  rw [takeDigits, htake, hdrop]

/-- The digits of a number are read as the number, if there is room for it. -/
theorem readUnsigned_toDigits (negative : Bool) {m : Nat} (hm : m ≤ maxSignificand)
    (hnegative : negative → 0 < m ∧ m ≤ 2 ^ 63) :
    readUnsigned negative (Nat.toDigits 10 m) = some (.int (signed negative m), []) := by
  have hdigits := takeDigits_digits fun c (hc : c ∈ Nat.toDigits 10 m) => isDigit_of_mem_toDigits hc
  have hlead : ¬((Nat.toDigits 10 m).isEmpty ∨
      ((Nat.toDigits 10 m).head? = some '0' ∧ 1 < (Nat.toDigits 10 m).length)) := by
    rintro (hempty | ⟨hzero, hlong⟩)
    · exact Nat.toDigits_ne_nil (List.isEmpty_iff.mp hempty)
    · rcases Nat.eq_zero_or_pos m with rfl | hpositive
      · exact absurd hlong (by decide)
      · exact head?_toDigits_ne hpositive hzero
  have hvalue : Nat.ofDigitChars 10 (Nat.toDigits 10 m) 0 = m := digitsValue_toDigits m
  have habsorb : absorb 0 (Nat.toDigits 10 m) = (m, []) := by
    rw [absorb_digits (by rwa [hvalue]), hvalue]
  have hsize : ¬(negative ∧ (m = 0 ∨ Nat.pow 2 63 < m)) := by
    rintro ⟨hsign, hbounds⟩
    obtain ⟨hpositive, hle⟩ := hnegative hsign
    rw [Nat.pow_eq] at hbounds
    omega
  have hparts : Number.ofParts? negative (Nat.toDigits 10 m) none none =
      some (.int (signed negative m)) := by
    rw [Number.ofParts?, habsorb]
    dsimp only
    rw [if_pos ⟨rfl, rfl, rfl, hsize⟩]
    rfl
  rw [readUnsigned, hdigits]
  dsimp only
  rw [if_neg hlead]
  simp only [readFraction, readExponent, Option.bind_eq_bind, Option.bind_some, hparts]

namespace Number

/-- The text of the number is read as the number. -/
def isExact (n : Number) : Bool := readNumber n.text.toList = some (n, [])

/-- The numbers that a text without fraction and exponent can stand for. -/
def Fits : Number → Prop
  | .int n => -(Nat.pow 2 63 : Nat) ≤ n ∧ n < (Nat.pow 2 64 : Nat)
  | .float _ => True

theorem fits_int_iff {n : Int} :
    (Number.int n).Fits ↔ -9223372036854775808 ≤ n ∧ n < 18446744073709551616 :=
  Iff.rfl

/-- A whole number for which there is room is read as it was written. -/
theorem isExact_int {n : Int} (h : (Number.int n).Fits) : (Number.int n).isExact := by
  obtain ⟨hlower, hupper⟩ := fits_int_iff.mp h
  have hmax : maxSignificand = 2 ^ 64 - 1 := rfl
  apply decide_eq_true
  rw [text, toList_toString]
  split
  case isTrue hsign =>
      have hread := readUnsigned_toDigits false (m := n.toNat) (by omega) (by simp)
      have hplain : readNumber (Nat.toDigits 10 n.toNat) =
          readUnsigned false (Nat.toDigits 10 n.toNat) := by
        cases hdigits : Nat.toDigits 10 n.toNat with
        | nil => rfl
        | cons c ds =>
            have hc : c ≠ '-' := by
              rintro rfl
              have hmem : '-' ∈ Nat.toDigits 10 n.toNat := by
                rw [hdigits]
                exact List.mem_cons_self
              exact absurd (isDigit_of_mem_toDigits hmem) (by decide)
            simp [readNumber, hc]
      rw [hplain, hread, signed, if_neg Bool.false_ne_true, Int.toNat_of_nonneg hsign]
  case isFalse hsign =>
      have hread := readUnsigned_toDigits true (m := (-n).toNat) (by omega) (by omega)
      rw [readNumber, hread, signed, if_pos rfl, Int.toNat_of_nonneg (by omega), Int.neg_neg]

end Number

/-! ### What is read -/

theorem absorb_le {n : Nat} (h : n ≤ maxSignificand) (ds : List Char) :
    (absorb n ds).1 ≤ maxSignificand := by
  induction ds generalizing n with
  | nil => exact h
  | cons c ds ih =>
      rw [absorb]
      split
      case isTrue hnext => exact ih hnext
      case isFalse => exact h

theorem fits_of_ofParts? {negative : Bool} {whole : List Char} {fraction : Option (List Char)}
    {exponent : Option Int} {n : Number}
    (h : Number.ofParts? negative whole fraction exponent = some n) : n.Fits := by
  have hle := absorb_le (Nat.zero_le maxSignificand) whole
  have hmax : maxSignificand = 2 ^ 64 - 1 := rfl
  unfold Number.ofParts? at h
  generalize absorb 0 whole = absorbed at h hle
  obtain ⟨significand, dropped⟩ := absorbed
  dsimp only at h hle
  split at h
  case isTrue hwhole =>
      obtain rfl := Option.some.inj h
      have hsize := hwhole.2.2.2
      rw [Nat.pow_eq] at hsize
      cases negative with
      | true =>
          simp only [true_and, not_or, Nat.not_lt] at hsize
          rw [if_pos rfl, Number.fits_int_iff]
          omega
      | false =>
          rw [if_neg Bool.false_ne_true, Number.fits_int_iff]
          omega
  case isFalse =>
      obtain ⟨magnitude, -, rfl⟩ := Option.map_eq_some_iff.mp h
      trivial

theorem fits_of_readUnsigned {negative : Bool} {cs rest : List Char} {n : Number}
    (h : readUnsigned negative cs = some (n, rest)) : n.Fits := by
  unfold readUnsigned at h
  dsimp only at h
  split at h
  case isTrue => cases h
  case isFalse =>
      simp only [Option.bind_eq_bind, Option.bind_eq_some_iff] at h
      obtain ⟨⟨fraction, _⟩, -, ⟨exponent, _⟩, -, number, hparts, hpair⟩ := h
      cases hpair
      exact fits_of_ofParts? hparts

theorem fits_of_readNumber {cs rest : List Char} {n : Number}
    (h : readNumber cs = some (n, rest)) : n.Fits := by
  unfold readNumber at h
  split at h
  · exact fits_of_readUnsigned h
  · exact fits_of_readUnsigned h

/-- A number begins with a minus or with a digit. -/
theorem exists_cons_of_readNumber {cs rest : List Char} {n : Number}
    (h : readNumber cs = some (n, rest)) : ∃ c more, cs = c :: more ∧ (c = '-' ∨ c.isDigit) := by
  unfold readNumber at h
  split at h
  case h_1 more => exact ⟨'-', more, rfl, .inl rfl⟩
  case h_2 =>
      cases cs with
      | nil => cases h
      | cons c more =>
          refine ⟨c, more, rfl, .inr ?_⟩
          by_contra hc
          simp [readUnsigned, takeDigits, hc] at h

end PgCollections.Json
