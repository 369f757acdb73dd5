import PgCollections.Proofs.Postgres.Conversion

/-! # Whole numbers for placeholders

`Json.Denotes v n` says that a JSON value stands for a whole number: as a number, or as the text of
one with white space around it, however long the text is.  A placeholder of a width takes such a
value if the width holds the number.  A number that the width does not hold is refused as out of
range if it fits 64 bits; a larger one is refused like a value that stands for no number at all
(`PgType.converts_whole_numbers`). -/

namespace PgCollections

open Scan

/-- The value is a whole number, or the text of one with white space around it. -/
inductive Json.Denotes : Json → Int → Prop
  | number (n : Int) : Denotes (.number (.int n)) n
  | text {before kept after : List Char} {n : Int} (hbefore : ∀ c ∈ before, isSpace c)
      (hkept : IntText kept n) (hafter : ∀ c ∈ after, isSpace c) :
      Denotes (.string (String.ofList (before ++ kept ++ after))) n

namespace Json

theorem denotes_int_iff {m n : Int} : (Json.number (.int m)).Denotes n ↔ m = n := by
  constructor
  · intro h
    cases h
    rfl
  · rintro rfl
    exact .number m

/-- White space at the ends of a text does not matter. -/
theorem denotes_string_iff {s : String} {n : Int} :
    (Json.string s).Denotes n ↔ scanInt.all? (trim s.toList) = some n := by
  rw [scanInt_all?_eq_some_iff]
  constructor
  · intro h
    cases h with
    | text hbefore hkept hafter =>
        rw [String.toList_ofList,
          trim_between hbefore (fun _ => hkept.isSpace_of_mem) hkept.ne_nil hafter]
        exact hkept
  · intro hkept
    obtain ⟨before, after, hs, hbefore, hafter⟩ := exists_eq_trim s.toList
    have hdenotes := Denotes.text hbefore hkept hafter
    rwa [← hs, String.ofList_toList] at hdenotes

end Json

namespace Scalar

/-- A number is read if it fits 64 bits, whichever form it has. -/
theorem readInt?_eq_some_iff {v : Json} {n : Int} :
    readInt? v = some n ↔ v.Denotes n ∧ fitsInt64 n := by
  cases v with
  | number x => cases x with
    | int m =>
        rw [readInt?, Option.ite_none_right_eq_some, Json.denotes_int_iff, Option.some.injEq]
        constructor
        · rintro ⟨hfits, rfl⟩
          exact ⟨rfl, hfits⟩
        · rintro ⟨rfl, hfits⟩
          exact ⟨hfits, rfl⟩
    | float x =>
        constructor
        · intro h
          cases h
        · rintro ⟨hdenotes, -⟩
          cases hdenotes
  | string s =>
      have hread : readInt? (.string s) = (scanInt.all? (trim s.toList)).bind fun m =>
          if fitsInt64 m then some m else none := rfl
      rw [hread, Option.bind_eq_some_iff]
      simp only [Json.denotes_string_iff, Option.ite_none_right_eq_some, Option.some.injEq]
      constructor
      · rintro ⟨m, hscan, hfits, rfl⟩
        exact ⟨hscan, hfits⟩
      · rintro ⟨hscan, hfits⟩
        exact ⟨n, hscan, hfits, rfl⟩
  | null | bool | array | object =>
      constructor
      · intro h
        cases h
      · rintro ⟨hdenotes, -⟩
        cases hdenotes

/-- A number that does not fit is not read. -/
theorem readInt?_eq_none {v : Json} (h : ∀ n, v.Denotes n → fitsInt64 n = false) :
    readInt? v = none := by
  refine Option.eq_none_iff_forall_ne_some.mpr fun n hread => ?_
  obtain ⟨hdenotes, hfits⟩ := readInt?_eq_some_iff.mp hread
  rw [h n hdenotes] at hfits
  cases hfits

end Scalar

/-- A value that stands for two numbers stands for the same number twice. -/
theorem Json.Denotes.unique {v : Json} {m n : Int} (hm : v.Denotes m) (hn : v.Denotes n) :
    m = n := by
  cases v with
  | number x => cases x with
    | int k => exact (denotes_int_iff.mp hm).symm.trans (denotes_int_iff.mp hn)
    | float x => cases hm
  | string s =>
      exact Option.some.inj ((denotes_string_iff.mp hm).symm.trans (denotes_string_iff.mp hn))
  | null | bool | array | object => cases hm

namespace PgType

variable {width : IntWidth} {v : Json}

theorem convert_int_of_readInt? {n : Int} (h : Scalar.readInt? v = some n) :
    (PgType.int width).convert v =
      if width.holds n then .ok (some (.scalar (.int width n)))
      else .error (.outOfRange (.int width) n) := by
  have hv : v.isNull = false := by
    cases v with
    | null => cases h
    | bool | number | string | array | object => rfl
  rw [convert_of_isScalar rfl hv, Scalar.ofJson, Scalar.readInt, h]
  dsimp only
  split <;> rfl

theorem convert_int_of_unread (hv : v.isNull = false) (h : Scalar.readInt? v = none) :
    (PgType.int width).convert v = .error (.invalidInput (.int width) v) := by
  rw [convert_of_isScalar rfl hv, Scalar.ofJson, Scalar.readInt, h]
  rfl

/-- A value that stands for a number is converted to it, or refused for the size of it. -/
theorem convert_int_of_denotes {n : Int} (h : v.Denotes n) :
    (PgType.int width).convert v =
      if width.holds n then .ok (some (.scalar (.int width n)))
      else .error
        (if fitsInt64 n then .outOfRange (.int width) n else .invalidInput (.int width) v) := by
  cases hfits : fitsInt64 n with
  | true => exact convert_int_of_readInt? (Scalar.readInt?_eq_some_iff.mpr ⟨h, hfits⟩)
  | false =>
      have hholds : ¬width.holds n := by
        intro hholds
        cases hfits.symm.trans (fitsInt64_of_holds hholds)
      have hv : v.isNull = false := by cases h <;> rfl
      have hunread : Scalar.readInt? v = none := by
        refine Scalar.readInt?_eq_none fun m hm => ?_
        rw [hm.unique h, hfits]
      rw [if_neg hholds, convert_int_of_unread hv hunread]
      rfl

/-- A value that stands for a whole number is converted to this very number if the width holds it.
Otherwise it is refused, as out of range if it fits 64 bits and as invalid if it does not.  All
other values but null are refused as invalid. -/
theorem converts_whole_numbers (width : IntWidth) (v : Json) :
    (∀ n, v.Denotes n →
      (PgType.int width).convert v =
        if width.holds n then .ok (some (.scalar (.int width n)))
        else .error
          (if fitsInt64 n then .outOfRange (.int width) n else .invalidInput (.int width) v)) ∧
    ((∀ n, ¬v.Denotes n) → v.isNull = false →
      (PgType.int width).convert v = .error (.invalidInput (.int width) v)) ∧
    ∀ e, (PgType.int width).convert v = .error e →
      e.code? = some SqlState.numericValueOutOfRange ∧ (∃ n, v.Denotes n ∧ fitsInt64 n) ∨
        e.code? = some SqlState.invalidTextRepresentation ∧
          ∀ n, v.Denotes n → fitsInt64 n = false := by
  refine ⟨fun _ => convert_int_of_denotes, ?_, ?_⟩
  · intro hnone hv
    exact convert_int_of_unread hv (Scalar.readInt?_eq_none fun n h => absurd h (hnone n))
  · intro e he
    cases refused_of_convert he with
    | outOfRange hread hholds => exact .inl ⟨rfl, _, Scalar.readInt?_eq_some_iff.mp hread⟩
    | invalid =>
        refine .inr ⟨rfl, fun n h => ?_⟩
        cases hfits : fitsInt64 n with
        | false => rfl
        | true =>
            rw [convert_int_of_denotes h, hfits] at he
            split at he <;> cases he

/-- The largest small integer is sent from a text with a sign, a leading zero and white space; the
number below the smallest one is out of range, and a decimal point makes a text invalid. -/
theorem converts_whole_numbers_limits :
    (Json.string " +032767\n").Denotes 32767 ∧
      (PgType.int .two).convert (.string " +032767\n") = .ok (some (.scalar (.int .two 32767))) ∧
      (Json.number (.int (-32769))).Denotes (-32769) ∧
      (PgType.int .two).convert (.number (.int (-32769))) =
        .error (.outOfRange (.int .two) (-32769)) ∧
      (∀ n, ¬(Json.string "7.0").Denotes n) ∧
      (PgType.int .two).convert (.string "7.0") =
        .error (.invalidInput (.int .two) (.string "7.0")) := by
  have hlargest : (Json.string " +032767\n").Denotes 32767 := Json.denotes_string_iff.mpr rfl
  have hbelow : (Json.number (.int (-32769))).Denotes (-32769) := .number (-32769)
  have hpoint (n : Int) : ¬(Json.string "7.0").Denotes n := by
    intro h
    cases Json.denotes_string_iff.mp h
  obtain ⟨hconvert, -, -⟩ := converts_whole_numbers .two (.string " +032767\n")
  obtain ⟨hconvert', -, -⟩ := converts_whole_numbers .two (.number (.int (-32769)))
  obtain ⟨-, hrefused, -⟩ := converts_whole_numbers .two (.string "7.0")
  exact ⟨hlargest, hconvert 32767 hlargest, hbelow, hconvert' (-32769) hbelow, hpoint,
    hrefused hpoint rfl⟩

/-- The numbers next to those of 64 bits are not refused as out of range, as a number or as a text,
while a number that no small integer holds is. -/
theorem converts_whole_numbers_tooLong :
    (Json.number (.int 9223372036854775808)).Denotes 9223372036854775808 ∧
      (Json.string "-9223372036854775809").Denotes (-9223372036854775809) ∧
      IntWidth.eight.holds 9223372036854775808 = false ∧
      IntWidth.four.holds (-9223372036854775809) = false ∧
      ((PgType.int .eight).convert (.number (.int 9223372036854775808))).mapError PgError.code? =
        .error (some "22P02") ∧
      ((PgType.int .four).convert (.string "-9223372036854775809")).mapError PgError.code? =
        .error (some "22P02") ∧
      ((PgType.int .two).convert (.number (.int 70000))).mapError PgError.code? =
        .error (some "22003") :=
  ⟨.number _, Json.denotes_string_iff.mpr rfl, rfl, rfl, rfl, rfl, rfl⟩

end PgType

end PgCollections
