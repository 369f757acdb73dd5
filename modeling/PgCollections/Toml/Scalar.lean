import PgCollections.Json.Basic
import PgCollections.Number.Text
import PgCollections.Text.Hex
import PgCollections.Time.Date

/-!
# Scalars of TOML

Strings, whole numbers, floats, dates and times, and truth values, in a text whose lines end with a
line feed.
-/

namespace PgCollections.Toml

def isWhite (c : Char) : Bool := c = ' ' || c = '\t'

/-- The characters that may stand in comments and strings: all but control characters, the tabulator
excepted. -/
def isText (c : Char) : Bool := c = '\t' || (0x20 ≤ c.toNat && c.toNat ≠ 0x7F)

/-! ### Strings -/

/-- The character with a number in hexadecimal digits. -/
def charOfHex? (digits : List Char) : Option Char := do
  let n ← hexNat? digits
  if n.isValidChar then some (Char.ofNat n) else none

/-- The character that a backslash and the given letter stand for. -/
def unescapeChar? (c : Char) : Option Char :=
  if c = '"' ∨ c = '\\' then some c
  else if c = 'b' then some '\x08'
  else if c = 'f' then some '\x0c'
  else if c = 'n' then some '\n'
  else if c = 'r' then some '\r'
  else if c = 't' then some '\t'
  else none

/-- Of three and more quotes in a row the last three close the string, and at most two before them
belong to it: those two, and what follows the closing ones. -/
def closeLong? (quote : Char) (cs : List Char) : Option (List Char × List Char) :=
  let count := (cs.takeWhile (· = quote)).length
  let extra := min 2 (count - 3)
  if 3 ≤ count then some (List.replicate extra quote, cs.drop (extra + 3)) else none

/-- The rest of a string in single quotes, in which all characters stand for themselves. -/
def literalRest (long : Bool) : List Char → Option (List Char × List Char)
  | [] => none
  | c :: rest =>
    let more := (literalRest long rest).map fun (chars, rest) => (c :: chars, rest)
    if c = '\'' then
      if long then closeLong? '\'' (c :: rest) <|> more else some ([], rest)
    else if isText c ∨ (long ∧ c = '\n') then more
    else none

/-- A backslash before blanks and the end of a line. -/
def endsLine (cs : List Char) : Bool := (cs.dropWhile isWhite).head? = some '\n'

/-- The rest of a string in double quotes. While `joining` lines, white space is skipped. -/
def basicRest (long joining : Bool) : List Char → Option (List Char × List Char)
  | [] => none
  | '\\' :: 'u' :: a :: b :: c :: d :: rest => do
    let char ← charOfHex? [a, b, c, d]
    let (chars, rest) ← basicRest long false rest
    return (char :: chars, rest)
  | '\\' :: 'U' :: a :: b :: c :: d :: e :: f :: g :: h :: rest => do
    let char ← charOfHex? [a, b, c, d, e, f, g, h]
    let (chars, rest) ← basicRest long false rest
    return (char :: chars, rest)
  | ['\\'] => none
  | '\\' :: c :: rest =>
    if long ∧ endsLine (c :: rest) then basicRest long true (c :: rest)
    else do
      let char ← unescapeChar? c
      let (chars, rest) ← basicRest long false rest
      return (char :: chars, rest)
  | c :: rest =>
    let more := (basicRest long false rest).map fun (chars, rest) => (c :: chars, rest)
    if joining ∧ (isWhite c ∨ c = '\n') then basicRest long true rest
    else if c = '"' then
      if long then closeLong? '"' (c :: rest) <|> more else some ([], rest)
    else if isText c ∨ (long ∧ c = '\n') then more
    else none

/-- A string on one line. -/
def scanShort : Scan String := do
  let quote ← Scan.oneOf ['"', '\'']
  String.ofList <$> if quote = '"' then basicRest false false else literalRest false

/-- A string between triple quotes, without a line end after the opening ones. -/
def scanLong : Scan String := do
  let basic ← (do Scan.word ['"', '"', '"']; return true) <|>
    (do Scan.word ['\'', '\'', '\'']; return false)
  discard <| Scan.found '\n'
  String.ofList <$> if basic then basicRest true false else literalRest true

def scanString : Scan String := scanLong <|> scanShort

/-! ### Numbers -/

/-- Digits in groups with single underscores between them. -/
def isGrouped (isDigit : Char → Bool) : List Char → Bool
  | [] => false
  | [c] => isDigit c
  | c :: '_' :: rest => isDigit c && isGrouped isDigit rest
  | c :: rest => isDigit c && isGrouped isDigit rest

/-- The digits of groups. -/
def scanGroups (isDigit : Char → Bool) : Scan (List Char) := do
  let taken ← Scan.span fun c => isDigit c || c = '_'
  if isGrouped isDigit taken then return taken.filter (· != '_') else failure

/-- Decimal digits of which the first is zero only if it is the only one. -/
def scanWhole : Scan (List Char) := do
  let digits ← scanGroups Char.isDigit
  if digits.head? = some '0' ∧ 1 < digits.length then failure else return digits

def isDigitOf (base : Nat) (c : Char) : Bool := (hexValue? c).any (· < base)

/-- Digits to a base after the mark for it. -/
def scanBased (mark : Char) (base : Nat) : Scan Int := do
  Scan.word ['0', mark]
  let digits ← scanGroups (isDigitOf base)
  return (digits.foldl (fun n c => base * n + (hexValue? c).getD 0) 0 : Nat)

/-- A whole number of 64 bits. -/
def scanInteger : Scan Json := do
  let based := scanBased 'x' 16 <|> scanBased 'o' 8 <|> scanBased 'b' 2
  let n ← based <|> do
    let negative ← Scan.sign
    return signed negative (digitsValue (← scanWhole))
  if fitsInt64 n then return .int n else failure

/-- The exponent of a float. -/
def scanPower : Scan Int := do
  discard <| Scan.oneOf ['e', 'E']
  let negative ← Scan.sign
  return signed negative (digitsValue (← scanGroups Char.isDigit))

/-- The magnitude of a float with a fraction or an exponent. -/
def scanMagnitude : Scan Nat := do
  let whole ← scanWhole
  let fraction ← Scan.orElse (do Scan.char '.'; scanGroups Char.isDigit) []
  let exponent ← if fraction.isEmpty then scanPower else Scan.orElse scanPower 0
  return BinaryFormat.double.ofDecimal (digitsValue (whole ++ fraction))
    (exponent - fraction.length)

/-- A float; a number that is too large is refused. -/
def scanDecimalFloat : Scan Json := do
  let negative ← Scan.sign
  let magnitude ← scanMagnitude
  if magnitude = BinaryFormat.double.infinity ∧ ¬ negative then failure
  else return .number (.float ⟨negative, magnitude⟩)

/-- An infinity, or what is not a number. -/
def scanNamedFloat : Scan Json := do
  let negative ← Scan.sign
  let magnitude ← (do Scan.word ['i', 'n', 'f']; return BinaryFormat.double.infinity) <|>
    (do Scan.word ['n', 'a', 'n']; return BinaryFormat.double.quietNaN)
  return .number (.float ⟨negative, magnitude⟩)

/-! ### Dates and times -/

/-- A number of `width` digits within bounds. -/
def scanBounded (width least most : Nat) : Scan Nat := do
  let n := digitsValue (← Scan.digitsUpTo width width)
  if least ≤ n ∧ n ≤ most then return n else failure

def scanDate : Scan Unit := do
  let year ← scanBounded 4 0 9999
  Scan.char '-'
  let month ← scanBounded 2 1 12
  Scan.char '-'
  let day ← scanBounded 2 1 31
  discard <| Date.check year month day

def scanTime : Scan Unit := do
  discard <| scanBounded 2 0 23
  Scan.char ':'
  discard <| scanBounded 2 0 59
  Scan.char ':'
  discard <| scanBounded 2 0 60
  Scan.orElse (do Scan.char '.'; discard Scan.digits) ()

def scanOffset : Scan Unit := do
  let mark ← Scan.oneOf ['Z', 'z', '+', '-']
  if mark = '+' ∨ mark = '-' then
    discard <| scanBounded 2 0 23
    Scan.char ':'
    discard <| scanBounded 2 0 59

/-- A date, a date and a time, or a time. -/
def scanMoment : Scan Unit :=
  (do
    scanDate
    Scan.orElse (do
      discard <| Scan.oneOf ['T', 't', ' ']
      scanTime
      Scan.orElse scanOffset ()) ()) <|> scanTime

/-- The name under which a date or a time is read as an object. -/
def momentName : String := "moment"

/-- A date or a time, read as an object that holds its text. -/
def scanDateTime : Scan Json := do
  let before ← get
  scanMoment
  let taken := before.take (before.length - (← get).length)
  return .object [(momentName, .string (String.ofList taken))]

/-! ### All scalars -/

def scanBool : Scan Json :=
  (do Scan.word "true".toList; return .bool true) <|>
    (do Scan.word "false".toList; return .bool false)

def scanScalar : Scan Json :=
  Json.string <$> scanString <|> scanBool <|> scanDateTime <|> scanDecimalFloat <|>
    scanNamedFloat <|> scanInteger

end PgCollections.Toml
