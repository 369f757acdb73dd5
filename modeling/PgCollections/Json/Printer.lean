import PgCollections.Json.Basic
import PgCollections.Text.Hex
import PgCollections.Text.Printable

/-!
# Texts of JSON values

* `Json.text`: the compact text, without blanks;
* `Json.pretty`: one item a line, two spaces a level;
* `Json.debug`: the inspection text of logs, which names the constructor of each value.
-/

namespace PgCollections

namespace Json

/-- What stands for a character inside a string: the quote, the backslash and the control
characters below U+0020 are escaped, all else is itself. -/
def escapeChar (c : Char) : List Char :=
  if c = '"' then ['\\', '"']
  else if c = '\\' then ['\\', '\\']
  else if c = '\x08' then ['\\', 'b']
  else if c = '\t' then ['\\', 't']
  else if c = '\n' then ['\\', 'n']
  else if c = '\x0c' then ['\\', 'f']
  else if c = '\r' then ['\\', 'r']
  else if c.toNat < 0x20 then
    ['\\', 'u', '0', '0', hexDigit (c.toNat / 16), hexDigit (c.toNat % 16)]
  else [c]

def quote (s : String) : String :=
  String.ofList ('"' :: s.toList.flatMap escapeChar ++ ['"'])

def Number.text : Number → String
  | .int n => toString n
  | .float x => x.text

/-! ### Compact text -/

mutual

def text : Json → String
  | .null => "null"
  | .bool true => "true"
  | .bool false => "false"
  | .number n => n.text
  | .string s => quote s
  | .array items => "[" ++ ",".intercalate (itemTexts items) ++ "]"
  | .object fields => "\x7b" ++ ",".intercalate (fieldTexts fields) ++ "\x7d"

def itemTexts : List Json → List String
  | [] => []
  | v :: rest => v.text :: itemTexts rest

def fieldTexts : List (String × Json) → List String
  | [] => []
  | (name, v) :: rest => (quote name ++ ":" ++ v.text) :: fieldTexts rest

end

/-! ### Indented text -/

def indentation (level : Nat) : String :=
  String.ofList ('\n' :: List.replicate (2 * level) ' ')

/-- The parts between brackets, one a line; nothing stands between the brackets of an empty list. -/
def indented (opening closing : String) (level : Nat) (parts : List String) : String :=
  if parts.isEmpty then opening ++ closing
  else
    opening ++ indentation (level + 1) ++
      ("," ++ indentation (level + 1)).intercalate parts ++ indentation level ++ closing

mutual

def prettyAt (level : Nat) : Json → String
  | .array items => indented "[" "]" level (prettyItems (level + 1) items)
  | .object fields => indented "\x7b" "\x7d" level (prettyFields (level + 1) fields)
  | v => v.text

def prettyItems (level : Nat) : List Json → List String
  | [] => []
  | v :: rest => prettyAt level v :: prettyItems level rest

def prettyFields (level : Nat) : List (String × Json) → List String
  | [] => []
  | (name, v) :: rest => (quote name ++ ": " ++ prettyAt level v) :: prettyFields level rest

end

def pretty (v : Json) : String := prettyAt 0 v

/-! ### Inspection text -/

mutual

def debug : Json → String
  | .null => "Null"
  | .bool b => "Bool(" ++ (if b then "true" else "false") ++ ")"
  | .number n => "Number(" ++ n.text ++ ")"
  | .string s => "String(" ++ debugQuote s ++ ")"
  | .array items => "Array [" ++ ", ".intercalate (debugItems items) ++ "]"
  | .object fields => "Object \x7b" ++ ", ".intercalate (debugFields fields) ++ "\x7d"

def debugItems : List Json → List String
  | [] => []
  | v :: rest => v.debug :: debugItems rest

def debugFields : List (String × Json) → List String
  | [] => []
  | (name, v) :: rest => (debugQuote name ++ ": " ++ v.debug) :: debugFields rest

end

/-- The inspection text of a list of values. -/
def debugList (values : List Json) : String :=
  "[" ++ ", ".intercalate (debugItems values) ++ "]"

end Json

end PgCollections
