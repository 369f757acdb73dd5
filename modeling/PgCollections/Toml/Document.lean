import PgCollections.Toml.Scalar
import PgCollections.Toml.Table

/-!
# TOML documents

`Toml.parse?` reads a document of TOML 1.0 as one JSON object. A mark of the byte order at its
start is skipped. Dates and times are objects, infinities are floats.
-/

namespace PgCollections.Toml

/-- The text with line feeds for all line ends; a carriage return stands before a line feed only. -/
def unifyLines? : List Char → Option (List Char)
  | [] => some []
  | '\r' :: '\n' :: rest => (unifyLines? rest).map ('\n' :: ·)
  | c :: rest => if c = '\r' then none else (unifyLines? rest).map (c :: ·)

/-! ### Blanks -/

def skipWhite : Scan Unit := modify (List.dropWhile isWhite)

def scanComment : Scan Unit := do
  Scan.char '#'
  discard <| Scan.span isText

/-- Blanks, line ends and comments. -/
def skipLines : Scan Unit :=
  discard <| Scan.many ((do discard <| Scan.oneOf [' ', '\t', '\n']) <|> scanComment)

/-- The end of a line after blanks and a comment. -/
def scanLineEnd : Scan Unit := do
  skipWhite
  Scan.orElse scanComment ()
  Scan.char '\n' <|> Scan.finish

/-! ### Keys -/

def isBare (c : Char) : Bool := c.isAlphanum || c = '_' || c = '-'

/-- A name without quotes. -/
def scanBare : Scan String := do
  let taken ← Scan.span isBare
  if taken.isEmpty then failure else return String.ofList taken

/-- The bound on how deep tables and values lie in each other. -/
def maxDepth : Nat := 79

/-- Names with points between them: those before the last one, and the last one. -/
def scanKey : Scan (List String × String) := do
  let part : Scan String := do
    skipWhite
    let name ← scanShort <|> scanBare
    skipWhite
    return name
  let names ← Scan.separated part (Scan.char '.')
  match names.getLast? with
  | some last => if names.length ≤ maxDepth then return (names.dropLast, last) else failure
  | none => failure

/-- A key, the equals sign and a value. -/
def scanPair (value : Scan Json) : Scan ((List String × String) × Json) := do
  let key ← scanKey
  Scan.char '='
  skipWhite
  let v ← value
  skipWhite
  return (key, v)

/-! ### Values -/

/-- Values in brackets, on any number of lines, with commas between them and perhaps at the end. -/
def scanArray (value : Scan Json) : Scan Json := do
  Scan.char '['
  let item : Scan Json := do
    skipLines
    let v ← value
    skipLines
    return v
  let items ← Scan.orElse (do
    let items ← Scan.separated item (Scan.char ',')
    discard <| Scan.found ','
    return items) []
  skipLines
  Scan.char ']'
  return .array items

/-- Pairs in braces on one line, with commas between them. -/
def scanInline (value : Scan Json) : Scan Json := do
  Scan.char '\x7b'
  let pairs ← Scan.orElse (Scan.separated (scanPair value) (Scan.char ',')) []
  skipWhite
  Scan.char '\x7d'
  match pairs.foldlM (fun entries ((path, key), v) => Entries.insert? path key v entries) [] with
  | some entries => return Entries.toJson entries
  | none => failure

/-- A value in which containers lie in each other up to a depth. -/
def scanValue : Nat → Scan Json
  | 0 => scanScalar
  | depth + 1 =>
    scanArray (scanValue depth) <|> scanInline (scanValue depth) <|> scanScalar

/-! ### Lines -/

inductive Line where
  | blank
  | header (path : List String) (key : String)
  | listHeader (path : List String) (key : String)
  | pair (path : List String) (key : String) (v : Json)

def scanHeader : Scan Line := do
  Scan.char '['
  let isList ← Scan.found '['
  let (path, key) ← scanKey
  Scan.char ']'
  if isList then
    Scan.char ']'
    return .listHeader path key
  return .header path key

/-- A line with its end; a value can make it longer than one line of the text. -/
def scanLine : Scan Line := do
  skipWhite
  let line ← scanHeader <|>
    (do let ((path, key), v) ← scanPair (scanValue maxDepth); return .pair path key v) <|>
    return .blank
  scanLineEnd
  return line

/-! ### Documents -/

/-- The tables so far, and the header to which the lines belong. -/
structure Document where
  entries : Entries := []
  header : List String := []

/-- The document with one more line. -/
def Document.add? (document : Document) : Line → Option Document
  | .blank => some document
  | .header path key =>
    (document.entries.open? path key).map fun entries => ⟨entries, path ++ [key]⟩
  | .listHeader path key =>
    (document.entries.append? path key).map fun entries => ⟨entries, path ++ [key]⟩
  | .pair path key v =>
    (document.entries.insertAt? document.header path key v).map fun entries =>
      ⟨entries, document.header⟩

/-- The lines of a text. -/
def lines? (cs : List Char) : Option (List Line) :=
  Scan.all? (do let lines ← Scan.many scanLine; skipWhite; return lines) cs

def byteOrderMark : Char := '\ufeff'

/-- The object that a document stands for. -/
def parse? (text : String) : Option Json := do
  let cs := text.toList
  let cs ← unifyLines? (if cs.head? = some byteOrderMark then cs.drop 1 else cs)
  let document ← (← lines? cs).foldlM Document.add? ({} : Document)
  return document.entries.toJson

end PgCollections.Toml
