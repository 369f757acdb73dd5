import PgCollections.CommandLine.Program
import PgCollections.Proofs.Bytes
import PgCollections.Proofs.Traversal

/-! # Aligned tables

The lines of a table show texts in columns (`Shows`): each text is filled up to the width of its
column, and the same number of characters stands between two columns.  The width of a column is
the greatest number of bytes of its texts (`columnWidth_le_iff`), and a text has no more characters
than bytes, so every text finds room.  Which text a row has in a column says `textAt_eq`.  The main
statement is `rowLines_aligned`. -/

namespace PgCollections.CommandLine

/-! ### Texts -/

/-- A missing cell has no text, a string is its own text, and every value but null is shown as
JSON. -/
theorem textAt_eq (column : String) (row : Row) :
    textAt column row =
      match Keyed.get? row column with
      | none => ""
      | some .null => "NULL"
      | some (.string s) => s
      | some v => v.text := by
  rw [textAt]
  cases Keyed.get? row column with
  | none => rfl
  | some v => cases v <;> rfl

/-! ### Lines -/

/-- A line shows texts in columns of the given widths: behind each text there is filling up to the
width of its column, and the joint stands between two columns. -/
def Shows (joint : String) (filling : Char) (widths : List Nat) (texts : List String)
    (line : String) : Prop :=
  ∃ cells : List String, line = joint.intercalate cells ∧ cells.map String.length = widths ∧
    List.Forall₂ (fun text cell => ∃ count, cell = text ++ String.ofList
      (List.replicate count filling)) texts cells

/-- The number of characters of a line with three characters between two columns. -/
def lineWidth : List Nat → Nat
  | [] => 0
  | [width] => width
  | width :: widths => width + (3 + lineWidth widths)

theorem length_intercalate {joint : String} (h : joint.length = 3) (cells : List String) :
    (joint.intercalate cells).length = lineWidth (cells.map String.length) := by
  induction cells with
  | nil => rfl
  | cons cell cells ih =>
      cases cells with
      | nil => simp [lineWidth]
      | cons next cells =>
          have hwidth : lineWidth ((cell :: next :: cells).map String.length) =
              cell.length + (3 + lineWidth ((next :: cells).map String.length)) := rfl
          rw [hwidth, String.intercalate_cons_cons, String.length_append, String.length_append, ih,
            h]
          omega

theorem Shows.length_eq {joint line : String} {filling : Char} {widths : List Nat}
    {texts : List String} (h : Shows joint filling widths texts line) (hjoint : joint.length = 3) :
    line.length = lineWidth widths := by
  obtain ⟨cells, rfl, rfl, -⟩ := h
  exact length_intercalate hjoint cells

/-! ### Widths -/

/-- A column is as wide as needed for the bytes of its header and its cells. -/
theorem columnWidth_le_iff {rows : List Row} {column : String} {n : Nat} :
    columnWidth rows column ≤ n ↔
      column.utf8ByteSize ≤ n ∧ ∀ row ∈ rows, (textAt column row).utf8ByteSize ≤ n := by
  unfold columnWidth
  generalize column.utf8ByteSize = start
  induction rows generalizing start with
  | nil => simp
  | cons row rows ih => rw [List.foldl_cons, ih, Nat.max_le, List.forall_mem_cons, and_assoc]

theorem length_le_utf8ByteSize (s : String) : s.length ≤ s.utf8ByteSize := by
  rw [← Bytes.length_ofString, ← String.length_toList]
  exact Bytes.length_toList_le s

theorem length_header_le (rows : List Row) (column : String) :
    column.length ≤ columnWidth rows column :=
  (length_le_utf8ByteSize column).trans (columnWidth_le_iff.mp le_rfl).1

theorem length_textAt_le {rows : List Row} {row : Row} (h : row ∈ rows) (column : String) :
    (textAt column row).length ≤ columnWidth rows column :=
  (length_le_utf8ByteSize _).trans ((columnWidth_le_iff.mp le_rfl).2 row h)

theorem length_padTo {width : Nat} {s : String} (h : s.length ≤ width) :
    (padTo width s).length = width := by
  rw [padTo, String.length_append, String.length_ofList, List.length_replicate]
  omega

/-! ### Tables -/

/-- A line shows texts that find room in their columns. -/
theorem shows_tableLine {rows : List Row} {columns : List String} {text : String → String}
    (h : ∀ column ∈ columns, (text column).length ≤ columnWidth rows column) :
    Shows " │ " ' ' (columns.map (columnWidth rows)) (columns.map text)
      (tableLine (layout rows columns) text) := by
  refine ⟨columns.map fun column => padTo (columnWidth rows column) (text column), ?_, ?_, ?_⟩
  · rw [tableLine, layout, List.map_map]
    rfl
  · rw [List.map_map]
    exact List.map_congr_left fun column hcolumn => length_padTo (h column hcolumn)
  · rw [List.forall₂_map_left_iff, List.forall₂_map_right_iff, List.forall₂_same]
    exact fun column _ => ⟨_, rfl⟩

/-- The separator shows nothing but filling. -/
theorem shows_separatorLine (rows : List Row) (columns : List String) :
    Shows "─┼─" '─' (columns.map (columnWidth rows)) (columns.map fun _ => "")
      (separatorLine (layout rows columns)) := by
  refine ⟨columns.map fun column => String.ofList (List.replicate (columnWidth rows column) '─'),
    ?_, ?_, ?_⟩
  · rw [separatorLine, layout, List.map_map]
    rfl
  · rw [List.map_map]
    exact List.map_congr_left fun column _ => by simp
  · rw [List.forall₂_map_left_iff, List.forall₂_map_right_iff, List.forall₂_same]
    exact fun column _ => ⟨columnWidth rows column, String.empty_append.symm⟩

/-- Rows are printed as a header, a separator and one line for each row, in order.  The header shows
the names of the columns, a line shows the texts of its row, and the separator shows nothing; all
have the same columns and hence the same number of characters.  A column is just as wide as its
longest text has bytes, and the text of a cell is a string as it is, or else the value as JSON. -/
theorem rowLines_aligned (first : Row) (rest : List Row) :
    let rows := first :: rest
    let columns := Keyed.keys first
    let widths := columns.map (columnWidth rows)
    ∃ header separator lines,
      rowLines .table rows =
        header :: separator :: lines ++ ["", toString rows.length ++ " row(s) returned"] ∧
      Shows " │ " ' ' widths columns header ∧
      Shows "─┼─" '─' widths (columns.map fun _ => "") separator ∧
      List.Forall₂ (fun row line =>
        Shows " │ " ' ' widths (columns.map fun column => textAt column row) line) rows lines ∧
      (∀ line ∈ header :: separator :: lines, line.length = lineWidth widths) ∧
      (∀ column n, columnWidth rows column ≤ n ↔
        column.utf8ByteSize ≤ n ∧ ∀ row ∈ rows, (textAt column row).utf8ByteSize ≤ n) ∧
      ∀ row column, textAt column row =
        match Keyed.get? row column with
        | none => ""
        | some .null => "NULL"
        | some (.string s) => s
        | some v => v.text := by
  intro rows columns widths
  have hheader : Shows " │ " ' ' widths columns (tableLine (layout rows columns) id) := by
    have hfits : ∀ column ∈ columns, (id column).length ≤ columnWidth rows column :=
      fun column _ => length_header_le rows column
    have hshows := shows_tableLine hfits
    rwa [List.map_id] at hshows
  have hseparator := shows_separatorLine rows columns
  have hrow : ∀ row ∈ rows, Shows " │ " ' ' widths (columns.map fun column => textAt column row)
      (tableLine (layout rows columns) fun column => textAt column row) :=
    fun row h => shows_tableLine fun column _ => length_textAt_le h column
  refine ⟨tableLine (layout rows columns) id, separatorLine (layout rows columns),
    rows.map fun row => tableLine (layout rows columns) fun column => textAt column row, rfl,
    hheader, hseparator, ?_, ?_, fun column n => columnWidth_le_iff,
    fun row column => textAt_eq column row⟩
  · rw [List.forall₂_map_right_iff, List.forall₂_same]
    exact hrow
  · intro line hline
    rcases List.mem_cons.mp hline with rfl | hline
    · exact hheader.length_eq rfl
    rcases List.mem_cons.mp hline with rfl | hline
    · exact hseparator.length_eq rfl
    · obtain ⟨row, hmem, rfl⟩ := List.mem_map.mp hline
      exact (hrow row hmem).length_eq rfl

/-- Two rows with wide characters, of which the second lacks a cell. -/
def wideRows : List Row := [[("é", .string "日本"), ("b", .null)], [("b", .array [.int 1])]]

/-- Texts of more bytes than characters are filled up by characters; the missing cell is blank. -/
theorem rowLines_aligned_wideRows :
    rowLines .table wideRows =
        ["é      │ b   ", "───────┼─────", "日本     │ NULL", "       │ [1] ", "",
          "2 row(s) returned"] ∧
      (∀ line ∈ ["é      │ b   ", "───────┼─────", "日本     │ NULL", "       │ [1] "],
        line.length = lineWidth [6, 4]) ∧
      textAt "é" [("b", .array [.int 1])] = "" ∧
      textAt "b" [("b", .array [.int 1])] = (Json.array [.int 1]).text := by
  obtain ⟨header, separator, lines, hprinted, -, -, -, hlength, -, htexts⟩ :=
    rowLines_aligned [("é", .string "日本"), ("b", .null)] [[("b", .array [.int 1])]]
  have hrows : rowLines .table wideRows =
      ["é      │ b   ", "───────┼─────", "日本     │ NULL", "       │ [1] "] ++
        ["", "2 row(s) returned"] := by
    decide +kernel
  have hlines := List.append_cancel_right (hrows.symm.trans hprinted)
  have hwidths : ["é", "b"].map (columnWidth wideRows) = [6, 4] := by decide +kernel
  rw [← hlines] at hlength
  refine ⟨hrows, fun line hline => ?_, htexts _ _, htexts _ _⟩
  exact (hlength line hline).trans (congrArg lineWidth hwidths)

end PgCollections.CommandLine
