import PgCollections.Proofs.Text.Scan
import PgCollections.Proofs.Time.Calendar
import PgCollections.Time.Timestamp

/-! # Dates and times as texts

The lenient readers of dates and times read what is written: years with a sign and without one
(`Date.reads_scan`), and fractions of three, six or nine digits (`Timestamp.reads_scanTime`), so
that local times of all years are read back (`Timestamp.ofLocal?_localText`).  The reader of
instants takes four digits for the year, so that it reads what is written of those years only
(`Timestamp.ofInstant?_instantText`). -/

namespace PgCollections

open Scan

namespace Date

/-! ### Dates -/

/-- The characters of a date. -/
theorem toList_text (date : Date) : date.text.toList =
    yearText date.year ++
      ('-' :: (paddedDigits 2 date.month ++ '-' :: paddedDigits 2 date.day)) := by
  rw [text, String.toList_ofList, List.append_assoc, List.cons_append]

theorem reads_scanField {n : Nat} (h : n < 100) (rest : List Char) :
    scanField.Reads (paddedDigits 2 n) n rest := by
  have hspaces := reads_skipSpaces (stops_padded (fun _ => isSpace_of_isDigit) 2 n rest)
  exact hspaces.after (reads_field id 1 (by decide) (by decide) h rest)

/-- A year is read whether it has a sign or not. -/
theorem reads_scanYear (year : Int) {rest : List Char} (hrest : Stops Char.isDigit rest) :
    scanYear.Reads (yearText year) year rest := by
  unfold yearText
  split
  case isTrue h =>
      -- Both signs are looked for and not found.
      have hlt : year.toNat < 10 ^ 4 := by omega
      have hspaces := reads_skipSpaces
        (stops_padded (fun _ => isSpace_of_isDigit) 4 year.toNat rest)
      have hminus := reads_notFound (head?_padded_ne '-' rfl 4 year.toNat rest)
      have hplus := reads_notFound (head?_padded_ne '+' rfl 4 year.toNat rest)
      have hyear := reads_field ((↑) : Nat → Int) 1 (by decide) (by decide) hlt rest
      rw [Int.toNat_of_nonneg h.1] at hyear
      exact hspaces.after (hminus.after (hplus.after hyear))
  case isFalse h =>
      by_cases hneg : year < 0
      · rw [if_pos hneg]
        have hspaces := reads_skipSpaces (stops_cons (c := '-') rfl
          (paddedDigits 4 year.natAbs ++ rest))
        have hminus := reads_found '-' (paddedDigits 4 year.natAbs ++ rest)
        have hyear := reads_padded (fun n => -(n : Int)) 4 year.natAbs hrest
        rw [Int.ofNat_natAbs_of_nonpos (Int.le_of_lt hneg), Int.neg_neg] at hyear
        exact hspaces.after (hminus.seq hyear)
      · rw [if_neg hneg]
        have hspaces := reads_skipSpaces (stops_cons (c := '+') rfl
          (paddedDigits 4 year.natAbs ++ rest))
        have hminus : (found '-').Reads [] false ('+' :: paddedDigits 4 year.natAbs ++ rest) :=
          reads_notFound (by simp)
        have hplus := reads_found '+' (paddedDigits 4 year.natAbs ++ rest)
        have hyear := reads_padded ((↑) : Nat → Int) 4 year.natAbs hrest
        rw [Int.natAbs_of_nonneg (Int.not_lt.mp hneg)] at hyear
        exact hspaces.after (hminus.after (hplus.seq hyear))

theorem reads_check {date : Date} (h : date.isValid) (rest : List Char) :
    (check date.year date.month date.day).Reads [] date rest :=
  reads_checked h date rest

/-- A date that exists is read as it was written. -/
theorem reads_scan {date : Date} (h : date.isValid) (rest : List Char) :
    scan.Reads date.text.toList date rest := by
  obtain ⟨hmonth, hday⟩ := lt_of_isValid h
  rw [toList_text]
  have hyear := reads_scanYear date.year (stops_cons (c := '-') rfl
    (paddedDigits 2 date.month ++ '-' :: paddedDigits 2 date.day ++ rest))
  have hlast := (reads_scanField hday rest).before (reads_check h rest)
  exact hyear.seq ((reads_char '-' _).seq ((reads_scanField hmonth _).seq
    ((reads_char '-' _).seq hlast)))

theorem ofText?_text {date : Date} (h : date.isValid) : ofText? date.text = some date :=
  all?_eq_some (by simpa using reads_scan h [])

end Date

namespace Timestamp

/-! ### Fields of fixed width -/

theorem reads_scanFixed {width n : Nat} (hwidth : 0 < width) (h : n < 10 ^ width)
    (rest : List Char) : (scanFixed width).Reads (paddedDigits width n) n rest :=
  reads_field id width (Nat.le_refl width) hwidth h rest

/-! ### Times of day -/

/-- As many digits behind a point as the fraction of a second needs are read as that fraction. -/
theorem reads_point (width : Nat) {nanos : Nat} (hwidth : 0 < width) (hnine : width ≤ 9)
    (h : nanos < nanosPerSecond) (hwhole : nanos % Nat.pow 10 (9 - width) = 0) {rest : List Char}
    (hrest : Stops Char.isDigit rest) :
    scanFraction.Reads ('.' :: paddedDigits width (nanos / Nat.pow 10 (9 - width))) nanos rest := by
  have hlt : nanos / Nat.pow 10 (9 - width) < 10 ^ width := by
    have hpow : Nat.pow 10 (9 - width) * 10 ^ width = nanosPerSecond := by
      rw [Nat.pow_eq, ← Nat.pow_add, Nat.sub_add_cancel hnine]
      rfl
    exact Nat.div_lt_of_lt_mul (hpow ▸ h)
  have hlength := length_paddedDigits hwidth hlt
  have htake := List.take_of_length_le (hlength.le.trans hnine)
  have hdigits := reads_digits (fun _ => isDigit_of_mem_paddedDigits)
    (paddedDigits_ne_nil width (nanos / Nat.pow 10 (9 - width))) hrest
  have hvalue := hdigits.map fun ds => digitsValue (ds.take 9) * Nat.pow 10 (9 - (ds.take 9).length)
  rw [htake, hlength, digitsValue_paddedDigits,
    Nat.div_mul_cancel (Nat.dvd_of_mod_eq_zero hwhole)] at hvalue
  exact (reads_found '.' _).seq hvalue

/-- The fraction of a second is read as it was written: no digit that counts is left out. -/
theorem reads_scanFraction {nanos : Nat} (h : nanos < nanosPerSecond) {rest : List Char}
    (hrest : Stops Char.isDigit rest) (hpoint : rest.head? ≠ some '.') :
    scanFraction.Reads (fractionText nanos) nanos rest := by
  unfold fractionText
  split
  case isTrue hzero =>
      rw [hzero]
      exact (reads_notFound hpoint).after (reads_pure 0 rest)
  case isFalse =>
      split
      case isTrue hmillis => exact reads_point 3 (by decide) (by decide) h hmillis hrest
      case isFalse =>
          split
          case isTrue hmicros => exact reads_point 6 (by decide) (by decide) h hmicros hrest
          case isFalse =>
              have hnanos := reads_point 9 (by decide) (by decide) h (Nat.mod_one nanos) hrest
              rwa [show Nat.pow 10 (9 - 9) = 1 from rfl, Nat.div_one] at hnanos

/-- Hours, minutes and seconds within their bounds make a time of day. -/
theorem reads_scanTime_fields {field : Scan Nat}
    (hfield : ∀ n < 100, ∀ rest, field.Reads (paddedDigits 2 n) n rest)
    {hour minute second fraction : Nat} (h : hour < 24 ∧ minute < 60 ∧ second ≤ 60)
    {text rest : List Char} (hfraction : scanFraction.Reads text fraction rest) :
    (scanTime field).Reads
      (paddedDigits 2 hour ++
        ':' :: (paddedDigits 2 minute ++ ':' :: (paddedDigits 2 second ++ text)))
      ((hour * 3600 + minute * 60 + second) * nanosPerSecond + fraction) rest := by
  have hhour := hfield hour (by omega)
  have hminute := hfield minute (by omega)
  have hsecond := hfield second (by omega)
  exact (hhour _).seq ((reads_char ':' _).seq ((hminute _).seq ((reads_char ':' _).seq
    ((hsecond _).seq (hfraction.before (reads_checked h _ rest))))))

/-- A time of day is read as it was written, whichever reader takes its fields of two digits. -/
theorem reads_scanTime {field : Scan Nat}
    (hfield : ∀ n < 100, ∀ rest, field.Reads (paddedDigits 2 n) n rest) {nanos : Nat}
    (h : nanos < nanosPerDay) {rest : List Char} (hrest : Stops Char.isDigit rest)
    (hpoint : rest.head? ≠ some '.') : (scanTime field).Reads (timeText nanos) nanos rest := by
  have hbounds : nanos / nanosPerSecond / 3600 < 24 ∧ nanos / nanosPerSecond / 60 % 60 < 60 ∧
      nanos / nanosPerSecond % 60 ≤ 60 := by
    simp only [nanosPerDay, nanosPerSecond] at h ⊢
    omega
  have hfraction := reads_scanFraction (Nat.mod_lt nanos (by decide)) hrest hpoint
  have htime := reads_scanTime_fields hfield hbounds hfraction
  have hnanos : (nanos / nanosPerSecond / 3600 * 3600 + nanos / nanosPerSecond / 60 % 60 * 60 +
      nanos / nanosPerSecond % 60) * nanosPerSecond + nanos % nanosPerSecond = nanos := by
    unfold nanosPerSecond
    omega
  rw [hnanos] at htime
  simpa only [timeText, List.append_assoc, List.cons_append] using htime

/-! ### Local times -/

/-- The characters of a time behind its date. -/
theorem toList_text (separator : Char) (t : Timestamp) :
    (t.text separator).toList = t.date.text.toList ++ separator :: timeText t.timeOfDay := by
  rw [text, String.toList_append, String.toList_ofList]

theorem timeOfDay_lt (t : Timestamp) : t.timeOfDay < nanosPerDay := by
  unfold timeOfDay nanosPerDay nanosPerSecond
  omega

/-- A moment is the time of its day on its date. -/
theorem ofDate_date (t : Timestamp) : ofDate t.date t.timeOfDay = t := by
  have hday : t.date.dayNumber = t.nanoseconds / nanosPerDay := Date.dayNumber_ofDayNumber _
  have htime : (t.timeOfDay : Int) = t.nanoseconds % nanosPerDay :=
    Int.toNat_of_nonneg (Int.emod_nonneg _ (by decide))
  rw [ofDate, hday, htime, Int.mul_comm, Int.mul_ediv_add_emod]

/-- A local time is read as it was written, wherever its separator is taken. -/
theorem reads_scanLocal {t : Timestamp} (h : t.date.isValid) {separator : Scan Unit} {c : Char}
    {rest : List Char} (hseparator : separator.Reads [c] () (timeText t.timeOfDay ++ rest))
    (hrest : Stops Char.isDigit rest) (hpoint : rest.head? ≠ some '.') :
    (scanLocal separator).Reads (t.text c).toList t rest := by
  have hfield : ∀ n < 100, ∀ rest, Date.scanField.Reads (paddedDigits 2 n) n rest :=
    fun n hn => Date.reads_scanField hn
  have htime := reads_scanTime hfield t.timeOfDay_lt hrest hpoint
  have hlocal : (scanLocal separator).Reads (t.text c).toList (ofDate t.date t.timeOfDay) rest := by
    rw [toList_text]
    exact (Date.reads_scan h _).seq (hseparator.seq (htime.map _))
  rwa [ofDate_date] at hlocal

/-- A local time is read from the text it is written as, whatever its year is: the blank behind the
date is no letter, and the reader of white space takes it. -/
theorem ofLocal?_localText {t : Timestamp} (h : t.date.isValid) :
    ofLocal? t.localText = some t := by
  have hdigits : Stops isSpace (timeText t.timeOfDay ++ []) := by
    unfold timeText
    simp only [List.append_assoc]
    exact stops_padded (fun _ => isSpace_of_isDigit) 2 _ _
  have hletter : (scanLocal (char 'T')).all? t.localText.toList = none := by
    have hblank : (char 'T').Refuses (' ' :: timeText t.timeOfDay) := refuses_char (by simp)
    rw [localText, toList_text]
    exact ((Date.reads_scan h _).refuses (hblank.bind _)).all?_eq_none
  have hspaces : (scanLocal skipSpaces).all? t.localText.toList = some t :=
    all?_eq_some (reads_scanLocal h (reads_spaces (by simp [isSpace]) hdigits) (stops_nil _)
      (by simp))
  rw [ofLocal?, ofLocalText?, hletter, hspaces]
  rfl

/-! ### Instants -/

/-- The offset that instants are written with. -/
def zeroOffset : List Char := ['+', '0', '0', ':', '0', '0']

theorem toList_instantText (t : Timestamp) :
    t.instantText.toList = (t.text 'T').toList ++ zeroOffset := by
  rw [instantText, String.toList_append]
  rfl

theorem reads_scanOffset (rest : List Char) : scanOffset.Reads zeroOffset 0 rest := rfl

theorem stops_zeroOffset (rest : List Char) : Stops Char.isDigit (zeroOffset ++ rest) :=
  stops_cons rfl _

theorem head?_zeroOffset_ne (rest : List Char) : (zeroOffset ++ rest).head? ≠ some '.' := by
  simp [zeroOffset]

/-- An instant of a year with four digits is read as it was written. -/
theorem reads_scanInstant {t : Timestamp} (h : t.date.isValid)
    (hyear : 0 ≤ t.date.year ∧ t.date.year ≤ 9999) (rest : List Char) :
    scanInstant.Reads t.instantText.toList t rest := by
  obtain ⟨hmonth, hday⟩ := Date.lt_of_isValid h
  have hfour : t.date.year.toNat < 10 ^ 4 := by omega
  have hfield : ∀ n < 100, ∀ rest, (scanFixed 2).Reads (paddedDigits 2 n) n rest :=
    fun n hn => reads_scanFixed (by decide) hn
  have hcheck (rest : List Char) :
      (Date.check t.date.year.toNat t.date.month t.date.day).Reads [] t.date rest := by
    rw [Int.toNat_of_nonneg hyear.1]
    exact Date.reads_check h rest
  have hletter (rest : List Char) : (oneOf ['T', 't', ' ']).Reads ['T'] 'T' rest :=
    reads_oneOf (by decide) rest
  have htime := reads_scanTime hfield t.timeOfDay_lt (stops_zeroOffset rest)
    (head?_zeroOffset_ne rest)
  have hinstant : scanInstant.Reads t.instantText.toList
      (ofDate t.date (t.timeOfDay - 0 * 60 * nanosPerSecond)) rest := by
    rw [toList_instantText, toList_text, Date.toList_text, Date.yearText, if_pos hyear]
    simp only [List.append_assoc, List.cons_append]
    exact (reads_scanFixed (by decide) hfour _).seq ((reads_char '-' _).seq
      ((hfield _ hmonth _).seq ((reads_char '-' _).seq ((hfield _ hday _).seq
        ((hcheck _).after ((hletter _).discard.seq (htime.seq
          ((reads_scanOffset rest).map _))))))))
  rwa [Int.zero_mul, Int.zero_mul, Int.sub_zero, ofDate_date] at hinstant

/-- A year with a sign is no beginning of an instant. -/
theorem refuses_scanInstant {t : Timestamp} (hyear : ¬(0 ≤ t.date.year ∧ t.date.year ≤ 9999)) :
    scanInstant.Refuses t.instantText.toList := by
  have hsign : (if t.date.year < 0 then '-' else '+').isDigit = false := by
    split <;> rfl
  rw [toList_instantText, toList_text, Date.toList_text, Date.yearText, if_neg hyear]
  -- The sign stands where the first of the four digits has to be.
  exact ((refuses_digitsUpTo (by decide) 4 (stops_cons hsign _)).bind _).bind _

/-- The offset of an instant is left over by the readers of local times, or its letter is no white
space. -/
theorem ofLocalText?_instantText {t : Timestamp} (h : t.date.isValid) :
    ofLocalText? t.instantText = none := by
  have hletter : (scanLocal (char 'T')).all? t.instantText.toList = none := by
    have hlocal := reads_scanLocal h (reads_char 'T' _) (stops_zeroOffset [])
      (head?_zeroOffset_ne [])
    rw [toList_instantText]
    exact all?_eq_none hlocal (by decide)
  have hspaces : (scanLocal skipSpaces).all? t.instantText.toList = none := by
    have hfield (rest : List Char) : Date.scanField.Refuses ('T' :: rest) :=
      (reads_skipSpaces (stops_cons rfl rest)).refuses
        ((refuses_digitsUpTo (by decide) 2 (stops_cons rfl rest)).bind _)
    rw [toList_instantText, toList_text, List.append_assoc, List.cons_append]
    exact ((Date.reads_scan h _).refuses ((reads_skipSpaces (stops_cons rfl _)).refuses
      (((hfield _).bind _).bind _))).all?_eq_none
  rw [ofLocalText?, hletter, hspaces]
  rfl

/-- An instant is read from the text it is written as if its year has four digits, and refused
otherwise. -/
theorem ofInstant?_instantText {t : Timestamp} (h : t.date.isValid) :
    ofInstant? t.instantText =
      if 0 ≤ t.date.year ∧ t.date.year ≤ 9999 then some t else none := by
  unfold ofInstant? ofOffsetText?
  split
  case isTrue hyear =>
      rw [all?_eq_some (reads_scanInstant h hyear [])]
      rfl
  case isFalse hyear =>
      rw [(refuses_scanInstant hyear).all?_eq_none, ofLocalText?_instantText h]
      rfl

end Timestamp

end PgCollections
