import PgCollections.Proofs.Postgres.Resending
import PgCollections.Proofs.Text.Taken

/-! # Moments for placeholders

Local times and instants are read from the same texts.  Both types try the same readers, and in
different orders, so that the results agree only if no text is read by two of them.  A text with an
offset has a third colon or the letter for offset zero, and a local time has neither: with these
characters counted as marks, every text of a local time has two of them
(`Timestamp.marks_of_ofLocalText?`) and every text with an offset has three
(`Timestamp.marks_of_ofOffsetText?`).

`PgType.converts_moments_alike` says what follows for placeholders. -/

namespace PgCollections

open Scan

namespace Timestamp

/-! ### Marks -/

/-- The character is a colon or the letter for offset zero. -/
def isMark (c : Char) : Bool := c ∈ [':', 'Z', 'z']

/-- A character of a kind to which no mark belongs. -/
theorem isMark_eq_false {kind : Char → Bool} (hmarks : ∀ mark ∈ [':', 'Z', 'z'], kind mark = false)
    {c : Char} (h : kind c) : isMark c = false := by
  refine decide_eq_false fun hmem => ?_
  rw [hmarks c hmem] at h
  cases h

theorem isMark_of_isDigit {c : Char} (h : c.isDigit) : isMark c = false :=
  isMark_eq_false (by simp) h

theorem isMark_of_isSpace {c : Char} (h : isSpace c) : isMark c = false :=
  isMark_eq_false (by simp [isSpace]) h

theorem counts_char (c : Char) : Counts isMark (if isMark c then 1 else 0) (char c) :=
  (takes_char c).mono fun _ text htext => by rw [htext, List.countP_singleton]

theorem counts_digits : Counts isMark 0 digits :=
  .zero (fun _ => isMark_of_isDigit) (takes_digits.mono fun _ _ hdigits => hdigits.1 ▸ hdigits.2.2)

theorem counts_digitsUpTo (least most : Nat) : Counts isMark 0 (digitsUpTo least most) :=
  .zero (fun _ => isMark_of_isDigit)
    ((takes_digitsUpTo least most).mono fun _ _ hdigits => hdigits.1 ▸ hdigits.2)

theorem counts_skipSpaces : Counts isMark 0 skipSpaces :=
  .zero (fun _ => isMark_of_isSpace) takes_skipSpaces

theorem counts_found (c : Char) (h : isMark c = false) : Counts isMark 0 (found c) := by
  refine (takes_found c).mono ?_
  rintro hit text rfl
  cases hit <;> simp [h]

theorem counts_oneOf {allowed : List Char} (h : ∀ c ∈ allowed, isMark c = false) :
    Counts isMark 0 (oneOf allowed) := by
  refine (takes_oneOf allowed).mono ?_
  rintro c text ⟨hallowed, rfl⟩
  rw [List.countP_singleton, h c hallowed]
  rfl

/-! ### Dates and times -/

theorem counts_field : Counts isMark 0 Date.scanField :=
  counts_skipSpaces.bind fun _ => (counts_digitsUpTo 1 2).bind fun _ => .pure _

theorem counts_fixed (width : Nat) : Counts isMark 0 (scanFixed width) :=
  (counts_digitsUpTo width width).bind fun _ => .pure _

theorem counts_check (year : Int) (month day : Nat) : Counts isMark 0 (Date.check year month day) :=
  .ite (.pure _) (takes_failure _)

theorem counts_year : Counts isMark 0 Date.scanYear := by
  have hsigned (f : Nat → Int) :
      Counts isMark 0 (do return f (digitsValue (← digits)) : Scan Int) :=
    counts_digits.bind fun _ => .pure _
  have hpositive : Counts isMark 0 (do
      if ← found '+' then return digitsValue (← digits)
      return digitsValue (← digitsUpTo 1 4) : Scan Int) :=
    (counts_found '+' rfl).bind fun _ =>
      .ite (hsigned fun n => n) ((counts_digitsUpTo 1 4).bind fun _ => .pure _)
  exact counts_skipSpaces.bind fun _ => (counts_found '-' rfl).bind fun _ =>
    .ite (hsigned fun n => -n) hpositive

theorem counts_date : Counts isMark 0 Date.scan :=
  counts_year.bind fun year => (counts_char '-').bind fun _ => counts_field.bind fun month =>
    (counts_char '-').bind fun _ => counts_field.bind fun day => counts_check year month day

theorem counts_fraction : Counts isMark 0 scanFraction := by
  refine Counts.bind (n := 0) (m := 0) (counts_found '.' rfl) fun hit => ?_
  split
  · exact counts_digits.bind fun _ => .pure _
  · exact .pure 0

/-- A time of day has its two colons, whichever reader takes its fields. -/
theorem counts_time {field : Scan Nat} (hfield : Counts isMark 0 field) :
    Counts isMark 2 (scanTime field) :=
  hfield.bind fun _ => (counts_char ':').bind fun _ => hfield.bind fun _ =>
    (counts_char ':').bind fun _ => hfield.bind fun _ => counts_fraction.bind fun _ =>
      .ite (.pure _) (takes_failure _)

theorem counts_local {separator : Scan Unit} (hseparator : Counts isMark 0 separator) :
    Counts isMark 2 (scanLocal separator) :=
  counts_date.bind fun _ => hseparator.bind fun _ => (counts_time counts_field).bind fun _ =>
    .pure _

/-- An offset is the letter, or it has a colon. -/
theorem counts_offset : Counts isMark 1 scanOffset := by
  have hrest (sign : Char) : Counts isMark (if sign = 'Z' ∨ sign = 'z' then 0 else 1)
      (if sign = 'Z' ∨ sign = 'z' then return 0 else do
        let hours ← scanFixed 2
        char ':'
        let minutes ← scanFixed 2
        if hours < 24 ∧ minutes < 60 then
          return (if sign = '+' then 1 else -1) * (hours * 60 + minutes)
        else failure : Scan Int) := by
    split
    · exact .pure 0
    · exact (counts_fixed 2).bind fun _ => (counts_char ':').bind fun _ =>
        (counts_fixed 2).bind fun _ => .ite (.pure _) (takes_failure _)
  refine (Takes.bind (takes_oneOf _) hrest).mono ?_
  rintro offset text ⟨sign, front, back, rfl, ⟨hallowed, rfl⟩, hback⟩
  have hall : ∀ sign ∈ ['Z', 'z', '+', '-', '\u2212'],
      [sign].countP isMark + (if sign = 'Z' ∨ sign = 'z' then 0 else 1) = 1 := by simp [isMark]
  rw [List.countP_append, hback]
  exact hall sign hallowed

theorem counts_instant : Counts isMark 3 scanInstant :=
  (counts_fixed 4).bind fun year => (counts_char '-').bind fun _ =>
    (counts_fixed 2).bind fun month => (counts_char '-').bind fun _ =>
      (counts_fixed 2).bind fun day => (counts_check year month day).bind fun _ =>
        ((counts_oneOf (by simp [isMark])).bind fun _ => .pure ()).bind fun _ =>
          (counts_time (counts_fixed 2)).bind fun _ => counts_offset.bind fun _ => .pure _

/-! ### Readers -/

/-- The text of a local time has two marks. -/
theorem marks_of_ofLocalText? {s : String} {t : Timestamp} (h : ofLocalText? s = some t) :
    s.toList.countP isMark = 2 := by
  unfold ofLocalText? at h
  cases hletter : (scanLocal (char 'T')).all? s.toList with
  | some t' => exact (counts_local (counts_char 'T')).of_all? hletter
  | none =>
      rw [hletter] at h
      exact (counts_local counts_skipSpaces).of_all? h

/-- The text of an instant has three marks. -/
theorem marks_of_ofOffsetText? {s : String} {t : Timestamp} (h : ofOffsetText? s = some t) :
    s.toList.countP isMark = 3 :=
  counts_instant.of_all? h

/-- The order in which the readers are tried does not matter: no text is read by both. -/
theorem ofInstant?_eq_ofLocal? (s : String) : ofInstant? s = ofLocal? s := by
  unfold ofInstant? ofLocal?
  cases hlocal : ofLocalText? s with
  | none => cases ofOffsetText? s <;> rfl
  | some t => cases hoffset : ofOffsetText? s with
    | none => rfl
    | some t' =>
        have hmarks := (marks_of_ofLocalText? hlocal).symm.trans (marks_of_ofOffsetText? hoffset)
        cases hmarks

end Timestamp

namespace PgType

/-- A text is taken for both types of moments or refused for both.  If it is taken, the instant is
the local time read in UTC, and the same bytes are sent. -/
theorem converts_moments_alike (s : String) :
    (∃ t : Timestamp,
      PgType.timestamptz.convert (.string s) = .ok (some (.scalar (.timestamptz t))) ∧
      PgType.timestamp.convert (.string s) = .ok (some (.scalar (.timestamp t))) ∧
      (Datum.scalar (.timestamptz t)).encode = (Datum.scalar (.timestamp t)).encode) ∨
    PgType.timestamptz.convert (.string s) = .error (.invalidInput .timestamptz (.string s)) ∧
      PgType.timestamp.convert (.string s) = .error (.invalidInput .timestamp (.string s)) := by
  rw [convert_of_isScalar rfl rfl, convert_of_isScalar rfl rfl]
  simp only [Scalar.ofJson, Json.asString?, Option.bind_some, Timestamp.ofInstant?_eq_ofLocal?]
  cases Timestamp.ofLocal? s with
  | none => exact .inr ⟨rfl, rfl⟩
  | some t => exact .inl ⟨t, rfl, rfl, rfl⟩

/-- An offset carries the last hour of a leap day over to the next month. -/
example : Timestamp.ofLocal? "2024-02-29T23:30:00.5-00:45" =
    Timestamp.ofLocal? " 2024-3-01 0:15:00.50" := by
  decide +kernel

end PgType

end PgCollections
