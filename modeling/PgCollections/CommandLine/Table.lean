import PgCollections.Gateway

/-!
# Tables of text

Rows as lines: a header, a separator and a line for each row. A column is as wide as the longest of
its texts in bytes, so that it holds each of them; texts are filled up by characters.
-/

namespace PgCollections.CommandLine

/-- A cell's text: a string as it is, and any other value as JSON. -/
def cellText : Json → String
  | .null => "NULL"
  | .string s => s
  | v => v.text

/-- The text of a row in a column; a missing cell is empty. -/
def textAt (column : String) (row : Row) : String :=
  ((Keyed.get? row column).map cellText).getD ""

/-- The text with blanks after it up to a width, however great the width is. -/
def padTo (width : Nat) (s : String) : String :=
  s ++ String.ofList (List.replicate (width - s.length) ' ')

def columnWidth (rows : List Row) (column : String) : Nat :=
  rows.foldl (fun width row => max width (textAt column row).utf8ByteSize) column.utf8ByteSize

/-- The columns and their widths. -/
def layout (rows : List Row) (columns : List String) : List (String × Nat) :=
  columns.map fun column => (column, columnWidth rows column)

/-- Texts of one line, one for each column. -/
def tableLine (layout : List (String × Nat)) (text : String → String) : String :=
  " │ ".intercalate (layout.map fun (column, width) => padTo width (text column))

def separatorLine (layout : List (String × Nat)) : String :=
  "─┼─".intercalate (layout.map fun (_, width) => String.ofList (List.replicate width '─'))

/-- The header, the separator and the rows; the first row has the columns. -/
def tableLines (rows : List Row) : List String :=
  let layout := layout rows ((rows.head?.map Keyed.keys).getD [])
  tableLine layout id :: separatorLine layout ::
    rows.map fun row => tableLine layout fun column => textAt column row

end PgCollections.CommandLine
