import Mathlib.Algebra.BigOperators.Group.List.Basic
import Mathlib.Algebra.Ring.Nat
import PgCollections.Time.Date

/-! # Day numbers

`Date.ofDayNumber` finds a date of the day number it is given (`Date.dayNumber_ofDayNumber`), and a
date that exists is the one of its day number (`Date.ofDayNumber_dayNumber`).  The year is found
first: the days before a year grow by the lengths of its months (`Date.daysBeforeYear_succ`), so
that the guess from the mean length of a year is off by one at most (`Date.daysBeforeYear_yearOf`).
Then the months of that year are gone through (`Date.inMonths_spec`, `Date.inMonths_eq`). -/

namespace PgCollections

namespace Date

/-! ### Years -/

/-- The number of days in a year. -/
def yearLength (year : Int) : Nat := if isLeapYear year then 366 else 365

theorem length_monthLengths (year : Int) : (monthLengths year).length = 12 := rfl

theorem sum_monthLengths (year : Int) : (monthLengths year).sum = yearLength year := by
  unfold monthLengths yearLength
  cases isLeapYear year <;> rfl

theorem foldl_add_eq_sum (n : Nat) (lengths : List Nat) :
    lengths.foldl Nat.add n = n + lengths.sum := by
  induction lengths generalizing n with
  | nil => rfl
  | cons length lengths ih =>
      rw [List.foldl_cons, ih, List.sum_cons]
      exact Nat.add_assoc n length lengths.sum

/-- A year begins when all days of the year before are over. -/
theorem daysBeforeYear_succ (year : Int) :
    daysBeforeYear (year + 1) = daysBeforeYear year + yearLength year := by
  unfold daysBeforeYear yearLength isLeapYear
  split
  case isTrue h =>
      simp only [decide_eq_true_eq] at h
      omega
  case isFalse h =>
      simp only [decide_eq_true_eq] at h
      omega

/-- The guess from the mean length of a year is off by one year at most. -/
theorem daysBeforeYear_guess (dayNumber : Int) :
    daysBeforeYear (2000 + 400 * dayNumber / 146097 - 1) ≤ dayNumber ∧
      dayNumber < daysBeforeYear (2000 + 400 * dayNumber / 146097 + 2) := by
  unfold daysBeforeYear
  omega

/-- The year found is the one that the day belongs to. -/
theorem daysBeforeYear_yearOf (dayNumber : Int) :
    daysBeforeYear (yearOf dayNumber) ≤ dayNumber ∧
      dayNumber < daysBeforeYear (yearOf dayNumber + 1) := by
  obtain ⟨hlower, hupper⟩ := daysBeforeYear_guess dayNumber
  unfold yearOf
  dsimp only
  split
  case isTrue h =>
      rw [Int.sub_add_cancel]
      exact ⟨hlower, h⟩
  case isFalse h =>
      split
      case isTrue hnext => exact ⟨hnext, by rwa [Int.add_assoc]⟩
      case isFalse hnext => exact ⟨Int.not_lt.mp h, Int.not_le.mp hnext⟩

theorem daysBeforeYear_mono {year later : Int} (h : year ≤ later) :
    daysBeforeYear year ≤ daysBeforeYear later := by
  unfold daysBeforeYear
  omega

/-- A day belongs to one year only. -/
theorem yearOf_eq {year dayNumber : Int} (hlower : daysBeforeYear year ≤ dayNumber)
    (hupper : dayNumber < daysBeforeYear (year + 1)) : yearOf dayNumber = year := by
  obtain ⟨hlower', hupper'⟩ := daysBeforeYear_yearOf dayNumber
  by_contra hne
  rcases Int.lt_or_gt_of_ne hne with hearlier | hlater
  · have hmono := daysBeforeYear_mono (Int.add_one_le_of_lt hearlier)
    omega
  · have hmono := daysBeforeYear_mono (Int.add_one_le_of_lt hlater)
    omega

/-! ### Months -/

/-- Going through the months behind the given ones finds the one that the day belongs to. -/
theorem inMonths_spec (year : Int) (before lengths : List Nat) (days : Nat)
    (h : days < lengths.sum) :
    let date := inMonths year (before.length + 1) days lengths
    date.year = year ∧
      ((before ++ lengths).take (date.month - 1)).sum + date.day = before.sum + days + 1 := by
  -- The months that are over move from `lengths` to `before`.
  induction lengths generalizing before days with
  | nil => cases h
  | cons length lengths ih =>
      rw [inMonths]
      by_cases hdays : days < length
      · rw [if_pos hdays]
        refine ⟨rfl, ?_⟩
        simp [Nat.add_assoc]
      · rw [if_neg hdays]
        have hrest : days - length < lengths.sum := by
          rw [List.sum_cons] at h
          omega
        have hspec := ih (before ++ [length]) (days - length) hrest
        rw [List.length_append, List.length_singleton, List.append_assoc, List.singleton_append,
          List.sum_append, List.sum_singleton] at hspec
        have hsum : before.sum + length + (days - length) + 1 = before.sum + days + 1 := by omega
        rwa [hsum] at hspec

/-- Going through the months finds the one whose day is looked for. -/
theorem inMonths_eq (year : Int) (month : Nat) {lengths : List Nat} {i day : Nat}
    (hi : i < lengths.length) (hfirst : 1 ≤ day) (h : day ≤ lengths[i]) :
    inMonths year month ((lengths.take i).sum + (day - 1)) lengths = ⟨year, month + i, day⟩ := by
  induction lengths generalizing month i with
  | nil => cases hi
  | cons length lengths ih =>
      rw [inMonths]
      cases i with
      | zero =>
          have hlt : ((length :: lengths).take 0).sum + (day - 1) < length := by
            simp only [List.getElem_cons_zero] at h
            simp only [List.take_zero, List.sum_nil]
            omega
          have hday : ((length :: lengths).take 0).sum + (day - 1) + 1 = day := by
            simp only [List.take_zero, List.sum_nil]
            omega
          rw [if_pos hlt, hday, Nat.add_zero]
      | succ i =>
          have hsum : ((length :: lengths).take (i + 1)).sum = length + (lengths.take i).sum := by
            rw [List.take_succ_cons, List.sum_cons]
          have hrest : length + (lengths.take i).sum + (day - 1) - length =
              (lengths.take i).sum + (day - 1) := by omega
          have hmonth : month + 1 + i = month + (i + 1) := by omega
          rw [hsum, if_neg (by omega), hrest, ih (month + 1) (Nat.lt_of_succ_lt_succ hi) h, hmonth]

/-- The date found has the day number it was looked up by. -/
theorem dayNumber_ofDayNumber (dayNumber : Int) :
    (ofDayNumber dayNumber).dayNumber = dayNumber := by
  obtain ⟨hlower, hupper⟩ := daysBeforeYear_yearOf dayNumber
  rw [daysBeforeYear_succ] at hupper
  have hdays : (dayNumber - daysBeforeYear (yearOf dayNumber)).toNat <
      (monthLengths (yearOf dayNumber)).sum := by
    rw [sum_monthLengths]
    omega
  obtain ⟨hyear, hday⟩ := inMonths_spec (yearOf dayNumber) [] _ _ hdays
  have hdate : ofDayNumber dayNumber = inMonths (yearOf dayNumber) (([] : List Nat).length + 1)
      (dayNumber - daysBeforeYear (yearOf dayNumber)).toNat (monthLengths (yearOf dayNumber)) := rfl
  rw [← hdate] at hyear hday
  rw [List.nil_append, List.sum_nil] at hday
  rw [Date.dayNumber, hyear, foldl_add_eq_sum]
  omega

/-! ### Dates that exist -/

theorem le_of_mem_monthLengths {year : Int} {length : Nat} (h : length ∈ monthLengths year) :
    length ≤ 31 := by
  have hall : ∀ leap : Bool,
      ∀ length ∈ [31, if leap then 29 else 28, 31, 30, 31, 30, 31, 31, 30, 31, 30, 31],
        length ≤ 31 := by decide
  exact hall (isLeapYear year) length h

/-- A date that exists is in one of the years, and in a month that has its day. -/
theorem isValid_iff {date : Date} : date.isValid ↔
    firstYear ≤ date.year ∧ date.year ≤ lastYear ∧ 1 ≤ date.month ∧ 1 ≤ date.day ∧
      ∃ h : date.month - 1 < (monthLengths date.year).length,
        date.day ≤ (monthLengths date.year)[date.month - 1] := by
  rw [isValid, decide_eq_true_eq, Option.any_eq_true]
  simp only [List.getElem?_eq_some_iff, decide_eq_true_eq]
  grind

/-- The month and the day of a date that exists have two digits. -/
theorem lt_of_isValid {date : Date} (h : date.isValid) : date.month < 100 ∧ date.day < 100 := by
  obtain ⟨-, -, -, -, hmonth, hday⟩ := isValid_iff.mp h
  have hle := le_of_mem_monthLengths (List.getElem_mem hmonth)
  rw [length_monthLengths] at hmonth
  constructor <;> omega

/-- The days of the months before, and those of the month, are days of the year. -/
theorem sum_take_add_le {lengths : List Nat} {i : Nat} (hi : i < lengths.length) :
    (lengths.take i).sum + lengths[i] ≤ lengths.sum := by
  have hsum := congrArg List.sum (List.take_append_drop i lengths)
  rw [List.drop_eq_getElem_cons hi, List.sum_append, List.sum_cons] at hsum
  omega

/-- A date that exists is one of the days of its year. -/
theorem daysBeforeYear_le_dayNumber {date : Date} (h : date.isValid) :
    daysBeforeYear date.year ≤ date.dayNumber ∧
      date.dayNumber < daysBeforeYear (date.year + 1) := by
  obtain ⟨-, -, -, hfirst, hmonth, hday⟩ := isValid_iff.mp h
  have hsum := sum_take_add_le hmonth
  rw [sum_monthLengths] at hsum
  rw [daysBeforeYear_succ, dayNumber, foldl_add_eq_sum]
  constructor <;> omega

/-- The date of a day number is the one that the number was counted for. -/
theorem ofDayNumber_dayNumber {date : Date} (h : date.isValid) :
    ofDayNumber date.dayNumber = date := by
  obtain ⟨hlower, hupper⟩ := daysBeforeYear_le_dayNumber h
  obtain ⟨-, -, hjanuary, hfirst, hmonth, hday⟩ := isValid_iff.mp h
  have hyear : yearOf date.dayNumber = date.year := yearOf_eq hlower hupper
  have hdays : (date.dayNumber - daysBeforeYear date.year).toNat =
      ((monthLengths date.year).take (date.month - 1)).sum + (date.day - 1) := by
    rw [dayNumber, foldl_add_eq_sum]
    omega
  have hnumber : 1 + (date.month - 1) = date.month := by omega
  rw [ofDayNumber, hyear, hdays, inMonths_eq date.year 1 hmonth hfirst hday, hnumber]

/-- The day numbers of dates that exist. -/
theorem dayNumber_bounds {date : Date} (h : date.isValid) :
    daysBeforeYear firstYear ≤ date.dayNumber ∧
      date.dayNumber < daysBeforeYear (lastYear + 1) := by
  obtain ⟨hlower, hupper⟩ := daysBeforeYear_le_dayNumber h
  obtain ⟨hfirst, hlast, -⟩ := isValid_iff.mp h
  have hfrom := daysBeforeYear_mono hfirst
  have hto := daysBeforeYear_mono (Int.add_le_add_right hlast 1)
  omega

end Date

end PgCollections
