import PgCollections.Text.Blank

/-!
# Scanners

A `Scan` takes characters off the front of a text and yields what they stand for, or refuses the
text.
-/

namespace PgCollections

abbrev Scan := StateT (List Char) Option

namespace Scan

variable {α : Type}

/-- What the whole text stands for. -/
def all? (scan : Scan α) (cs : List Char) : Option α :=
  match scan.run cs with
  | some (a, []) => some a
  | _ => none

def char (c : Char) : Scan Unit := fun
  | [] => none
  | d :: rest => if d = c then some ((), rest) else none

/-- One of the given characters. -/
def oneOf (allowed : List Char) : Scan Char := fun
  | [] => none
  | c :: rest => if c ∈ allowed then some (c, rest) else none

/-- Takes one of the given characters if one comes next, and tells whether one did. -/
def foundOneOf (allowed : List Char) : Scan Bool := fun
  | [] => some (false, [])
  | c :: rest => if c ∈ allowed then some (true, rest) else some (false, c :: rest)

/-- Takes the character if it comes next, and tells whether it did. -/
def found (c : Char) : Scan Bool := foundOneOf [c]

/-- All characters up to the first one that is not of the kind. -/
def span (kind : Char → Bool) : Scan (List Char) := fun cs =>
  some (cs.takeWhile kind, cs.dropWhile kind)

def skipSpaces : Scan Unit := modify (List.dropWhile isSpace)

/-- As many digits as come next, at least one. -/
def digits : Scan (List Char) := do
  let taken ← span Char.isDigit
  if taken.isEmpty then failure else return taken

/-- At most `most` digits, at least `least`. -/
def digitsUpTo (least most : Nat) : Scan (List Char) := fun cs =>
  let taken := (cs.take most).takeWhile Char.isDigit
  if least ≤ taken.length then some (taken, cs.drop taken.length) else none

/-- Takes the word if it comes next. -/
def word (w : List Char) : Scan Unit := fun cs =>
  if w.isPrefixOf cs then some ((), cs.drop w.length) else none

/-- Succeeds at the end of the text only. -/
def finish : Scan Unit := fun cs => if cs.isEmpty then some ((), cs) else none

/-- What the scanner finds, or the default where it finds nothing. -/
def orElse (scan : Scan α) (default : α) : Scan α := scan <|> pure default

/-- Scans again and again, until the scanner refuses what comes next or takes nothing. -/
def many (scan : Scan α) (cs : List Char) : Option (List α × List Char) :=
  match scan cs with
  | none => some ([], cs)
  | some (a, rest) =>
    if rest.length < cs.length then (many scan rest).map fun (found, rest) => (a :: found, rest)
    else some ([], cs)
termination_by cs.length

/-- One or more times what the scanner finds, with a separator between them. -/
def separated (scan : Scan α) (separator : Scan Unit) : Scan (List α) := do
  let first ← scan
  let rest ← many (do separator; scan)
  return first :: rest

end Scan

/-- The value of decimal digits. -/
def digitsValue (digits : List Char) : Nat := Nat.ofDigitChars 10 digits 0

/-- The decimal digits of a number, with leading zeros up to a width. -/
def paddedDigits (width n : Nat) : List Char :=
  let digits := Nat.toDigits 10 n
  List.replicate (width - digits.length) '0' ++ digits

end PgCollections
