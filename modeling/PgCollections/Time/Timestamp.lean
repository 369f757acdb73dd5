import PgCollections.Time.Date

/-!
# Timestamps

A `Timestamp` is a moment in nanoseconds since 2000-01-01 00:00:00. It stands for a local time or
for an instant in UTC. Texts of local times are `date time` and `dateTtime` with lenient fields;
texts with an offset follow RFC 3339 and stand for the instant.
-/

namespace PgCollections

structure Timestamp where
  nanoseconds : Int
deriving DecidableEq

namespace Timestamp

def nanosPerSecond : Nat := 1000000000

def nanosPerDay : Nat := 86400 * nanosPerSecond

/-- The moment a number of nanoseconds after the start of a day. -/
def ofDate (date : Date) (nanos : Int) : Timestamp := ⟨date.dayNumber * nanosPerDay + nanos⟩

def date (t : Timestamp) : Date := Date.ofDayNumber (t.nanoseconds / nanosPerDay)

/-- The nanoseconds since midnight. -/
def timeOfDay (t : Timestamp) : Nat := (t.nanoseconds % nanosPerDay).toNat

/-! ### Microseconds -/

/-- The microseconds since 2000-01-01 00:00:00; a part of one is dropped. -/
def micros (t : Timestamp) : Int := t.nanoseconds.tdiv 1000

/-- The moment of a number of microseconds, on a date that exists. Numbers outside the years of
dates, those that stand for infinity among them, are no moments. -/
def ofMicros? (micros : Int) : Option Timestamp :=
  let t : Timestamp := ⟨micros * 1000⟩
  if t.date.isValid then some t else none

/-! ### Writing -/

/-- Nothing for no fraction, three digits for whole milliseconds, six for whole microseconds, and
nine otherwise. -/
def fractionText (nanos : Nat) : List Char :=
  if nanos = 0 then []
  else if nanos % 1000000 = 0 then '.' :: paddedDigits 3 (nanos / 1000000)
  else if nanos % 1000 = 0 then '.' :: paddedDigits 6 (nanos / 1000)
  else '.' :: paddedDigits 9 nanos

/-- Hours, minutes and seconds of a time of day, with its fraction. -/
def timeText (nanos : Nat) : List Char :=
  let seconds := nanos / nanosPerSecond
  paddedDigits 2 (seconds / 3600) ++ ':' :: paddedDigits 2 (seconds / 60 % 60) ++
    ':' :: paddedDigits 2 (seconds % 60) ++ fractionText (nanos % nanosPerSecond)

def text (separator : Char) (t : Timestamp) : String :=
  t.date.text ++ String.ofList (separator :: timeText t.timeOfDay)

/-- The text of a local time. -/
def localText (t : Timestamp) : String := t.text ' '

/-- The text of an instant, at offset zero. -/
def instantText (t : Timestamp) : String := t.text 'T' ++ "+00:00"

/-! ### Reading -/

/-- The fraction of a second in nanoseconds; digits after the ninth are dropped. -/
def scanFraction : Scan Nat := do
  if ← Scan.found '.' then
    let digits := (← Scan.digits).take 9
    return digitsValue digits * Nat.pow 10 (9 - digits.length)
  return 0

/-- The nanoseconds since midnight of a time whose fields `field` reads. The second 60 is the first
second of the next minute. -/
def scanTime (field : Scan Nat) : Scan Nat := do
  let hour ← field
  Scan.char ':'
  let minute ← field
  Scan.char ':'
  let second ← field
  let fraction ← scanFraction
  if hour < 24 ∧ minute < 60 ∧ second ≤ 60 then
    return (hour * 3600 + minute * 60 + second) * nanosPerSecond + fraction
  else failure

/-- A date and a time with lenient fields. -/
def scanLocal (separator : Scan Unit) : Scan Timestamp := do
  let date ← Date.scan
  separator
  return ofDate date (← scanTime Date.scanField)

/-- A local time, with the letter `T` or with white space before the time. -/
def ofLocalText? (text : String) : Option Timestamp :=
  (scanLocal (Scan.char 'T')).all? text.toList <|>
    (scanLocal Scan.skipSpaces).all? text.toList

/-- A field of exactly `width` digits. -/
def scanFixed (width : Nat) : Scan Nat := return digitsValue (← Scan.digitsUpTo width width)

/-- The offset from UTC in minutes. -/
def scanOffset : Scan Int := do
  let sign ← Scan.oneOf ['Z', 'z', '+', '-', '\u2212']
  if sign = 'Z' ∨ sign = 'z' then return 0
  let hours ← scanFixed 2
  Scan.char ':'
  let minutes ← scanFixed 2
  if hours < 24 ∧ minutes < 60 then
    return (if sign = '+' then 1 else -1) * (hours * 60 + minutes)
  else failure

/-- A date and a time with fields of fixed width, and an offset. -/
def scanInstant : Scan Timestamp := do
  let year ← scanFixed 4
  Scan.char '-'
  let month ← scanFixed 2
  Scan.char '-'
  let date ← Date.check year month (← scanFixed 2)
  discard <| Scan.oneOf ['T', 't', ' ']
  let time ← scanTime (scanFixed 2)
  let offset ← scanOffset
  return ofDate date (time - offset * 60 * nanosPerSecond)

/-- The instant of a text with an offset. -/
def ofOffsetText? (text : String) : Option Timestamp := scanInstant.all? text.toList

/-- A local time; a text with an offset stands for its time in UTC. -/
def ofLocal? (text : String) : Option Timestamp := ofLocalText? text <|> ofOffsetText? text

/-- An instant; a text without an offset stands for a time in UTC. -/
def ofInstant? (text : String) : Option Timestamp := ofOffsetText? text <|> ofLocalText? text

end Timestamp

end PgCollections
