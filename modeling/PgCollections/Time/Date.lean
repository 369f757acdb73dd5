import PgCollections.Text.Scan

/-!
# Calendar dates

Dates of the proleptic Gregorian calendar, in which year 0 precedes year 1. `Date.dayNumber` counts
the days from 2000-01-01, and `Date.ofDayNumber` finds the date of such a number.
-/

namespace PgCollections

structure Date where
  year : Int
  month : Nat
  day : Nat
deriving DecidableEq

namespace Date

def isLeapYear (year : Int) : Bool :=
  year % 4 = 0 ∧ (year % 100 ≠ 0 ∨ year % 400 = 0)

/-- The lengths of the twelve months. -/
def monthLengths (year : Int) : List Nat :=
  [31, if isLeapYear year then 29 else 28, 31, 30, 31, 30, 31, 31, 30, 31, 30, 31]

/-- The years that dates can have. -/
def firstYear : Int := -262143

def lastYear : Int := 262142

/-- The date exists, in a year that dates can have. -/
def isValid (date : Date) : Bool :=
  firstYear ≤ date.year ∧ date.year ≤ lastYear ∧ 1 ≤ date.month ∧ 1 ≤ date.day ∧
    ((monthLengths date.year)[date.month - 1]?).any (date.day ≤ ·)

/-! ### Day numbers -/

/-- The days from 2000-01-01 to the first day of the year. -/
def daysBeforeYear (year : Int) : Int :=
  365 * (year - 2000) + (year - 1) / 4 - (year - 1) / 100 + (year - 1) / 400 - 484

/-- The days from 2000-01-01 to the date. -/
def dayNumber (date : Date) : Int :=
  let months := (monthLengths date.year).take (date.month - 1)
  daysBeforeYear date.year + months.foldl Nat.add 0 + date.day - 1

/-- The year that the day belongs to: the mean length of years tells it up to one. -/
def yearOf (dayNumber : Int) : Int :=
  let guess := 2000 + 400 * dayNumber / 146097
  if dayNumber < daysBeforeYear guess then guess - 1
  else if daysBeforeYear (guess + 1) ≤ dayNumber then guess + 1
  else guess

/-- Finds the month, given the days since the month's first and the lengths from it on. -/
def inMonths (year : Int) (month days : Nat) : List Nat → Date
  | [] => ⟨year, month, days + 1⟩
  | length :: rest =>
    if days < length then ⟨year, month, days + 1⟩
    else inMonths year (month + 1) (days - length) rest

def ofDayNumber (dayNumber : Int) : Date :=
  let year := yearOf dayNumber
  inMonths year 1 (dayNumber - daysBeforeYear year).toNat (monthLengths year)

/-! ### Texts -/

/-- Four digits; outside the years 0 to 9999 a sign and at least four digits. -/
def yearText (year : Int) : List Char :=
  if 0 ≤ year ∧ year ≤ 9999 then paddedDigits 4 year.toNat
  else (if year < 0 then '-' else '+') :: paddedDigits 4 year.natAbs

def text (date : Date) : String :=
  String.ofList (yearText date.year ++ '-' :: paddedDigits 2 date.month ++
    '-' :: paddedDigits 2 date.day)

/-- A year: at most four digits without a sign, and any number of them after one. -/
def scanYear : Scan Int := do
  Scan.skipSpaces
  if ← Scan.found '-' then return -digitsValue (← Scan.digits)
  if ← Scan.found '+' then return digitsValue (← Scan.digits)
  return digitsValue (← Scan.digitsUpTo 1 4)

/-- A field of one or two digits, with white space before it. -/
def scanField : Scan Nat := do
  Scan.skipSpaces
  return digitsValue (← Scan.digitsUpTo 1 2)

/-- The date of the given fields, if there is one. -/
def check (year : Int) (month day : Nat) : Scan Date :=
  let date : Date := ⟨year, month, day⟩
  if date.isValid then pure date else failure

/-- Year, month and day with hyphens between them. -/
def scan : Scan Date := do
  let year ← scanYear
  Scan.char '-'
  let month ← scanField
  Scan.char '-'
  check year month (← scanField)

def ofText? (text : String) : Option Date := scan.all? text.toList

end Date

end PgCollections
