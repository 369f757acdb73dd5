import Mathlib.Data.List.Perm.Basic
import PgCollections.Proofs.Database.Step
import PgCollections.Proofs.Sql.Listing
import PgCollections.Proofs.Traversal

/-! # Insertions

An `Insertion` is what an inserting statement says: the table, the columns, one tuple of
placeholders for each row, and the returned columns.  `Insertion.written` is its text, and
`Insertion.read?` takes a text apart again.  With the parameters in the places of the placeholders,
the tuples are the rows that are stored (`Insertion.rows?`).

The main statements say where the cells of the given rows are.  Row by row and column by column they
stand in the parameters, whatever the order of the columns in a row is
(`Insertion.inserts_rows_in_order`); and of a row the cells are stored whose columns the first row
has (`Insertion.stores_cells_of_first_columns`), but no others
(`Insertion.stores_cells_of_first_columns_surplus`). -/

namespace PgCollections

open Sql

/-- An inserting statement with the numbers of its placeholders. -/
structure Insertion where
  table : String
  columns : List String
  tuples : List (List Nat)
  returning : List String

namespace Insertion

/-- The insertion of `rows` rows with the placeholders in order. -/
def of (table : String) (columns : List String) (rows : Nat) (returning : List String) :
    Insertion where
  table := table
  columns := columns
  tuples := (List.range rows).map fun i =>
    (List.range columns.length).map fun j => i * columns.length + j + 1
  returning := returning

/-- How an insertion is written. -/
def written (insertion : Insertion) : String :=
  "INSERT INTO " ++ quoteIdentifier insertion.table ++
    " (" ++ ",".intercalate (insertion.columns.map quoteIdentifier) ++ ") VALUES " ++
    ",".intercalate (insertion.tuples.map fun slots =>
      "(" ++ ",".intercalate (slots.map placeholder) ++ ")") ++
    if insertion.returning.isEmpty then ""
    else " RETURNING " ++ ",".intercalate (insertion.returning.map quoteIdentifier)

/-! ### Reading -/

/-- The returned columns; without the keyword there are none. -/
def returning? : List Token → Option (List String)
  | [] => some []
  | .keyword .RETURNING :: ts =>
    match listing? (single? Token.name?) ts with
    | some (names, []) => some names
    | _ => none
  | _ => none

/-- What an inserting statement says. -/
def read? (sql : String) : Option Insertion := do
  let tokens ← lex sql.toList
  match visible tokens with
  | .keyword .INSERT :: .keyword .INTO :: .name table :: ts =>
    match ← parenthesised? (single? Token.name?) ts with
    | (columns, .keyword .VALUES :: ts) =>
      let (tuples, ts) ← listing? (parenthesised? (single? Token.slot?)) ts
      return ⟨table, columns, tuples, ← returning? ts⟩
    | _ => none
  | _ => none

/-- The row that a tuple stands for: as many values as there are columns. -/
def row? (columns : List String) (params : List Json) (slots : List Nat) : Option Row := do
  let values ← slots.mapM (paramAt? params)
  if values.length = columns.length then some (columns.zip values) else none

/-- The rows that are stored. -/
def rows? (insertion : Insertion) (params : List Json) : Option (List Row) :=
  insertion.tuples.mapM (row? insertion.columns params)

/-- In the tuple of the `i`-th row, the placeholder at the place of a column is bound to a value. -/
def Stores (insertion : Insertion) (params : List Json) (i : Nat) (column : String) (v : Json) :
    Prop :=
  ∃ (j : Nat) (slots : List Nat) (slot : Nat), insertion.columns[j]? = some column ∧
    insertion.tuples[i]? = some slots ∧ slots[j]? = some slot ∧ paramAt? params slot = some v

/-! ### Texts -/

theorem slotsAfter_eq_map (n count : Nat) :
    slotsAfter n count = (List.range count).map fun j => n + j + 1 := by
  rw [slotsAfter, List.range'_eq_map_range]
  exact List.map_congr_left fun j _ => by omega

theorem tuplesTokens_eq_map (n count rows : Nat) :
    tuplesTokens n count rows =
      (List.range rows).map fun i => tupleTokens (n + i * count) count := by
  induction rows generalizing n with
  | zero => rfl
  | succ rows ih =>
      have hnext : ∀ i, n + count + i * count = n + (i + 1) * count := by
        intro i
        rw [Nat.succ_mul]
        omega
      rw [tuplesTokens, ih, List.range_succ_eq_map, List.map_cons, List.map_map]
      simp [Function.comp_def, hnext]

theorem tuplesTokens_of (table : String) (columns : List String) (rows : Nat)
    (returning : List String) :
    tuplesTokens 0 columns.length rows = (of table columns rows returning).tuples.map slotTuple := by
  rw [tuplesTokens_eq_map, of, List.map_map]
  refine List.map_congr_left fun i _ => ?_
  rw [Function.comp_apply, ← slotsAfter_eq_map, Nat.zero_add]
  rfl

theorem text_insertTokens (table : String) (columns : List String) (rows : Nat)
    (returning : List String) :
    text (Statement.insertTokens table columns rows returning) =
      (of table columns rows returning).written := by
  have hcomma : text [.comma] = "," := rfl
  have htext : text ∘ slotTuple = fun slots =>
      "(" ++ ",".intercalate (slots.map placeholder) ++ ")" := funext text_slotTuple
  rw [Statement.insertTokens, text_append, text_append, text_append, text_append, text_names,
    text_returningTokens, text_intercalate, tuplesTokens_of table columns rows returning,
    List.map_map, htext, hcomma]
  unfold written Statement.returningClause
  simp [← String.toList_inj, Token.text, Keyword.text, quoteIdentifiers, of]

/-! ### Reading what is written -/

theorem returning?_returningTokens (columns : List String) :
    returning? (visible (returningTokens columns)) = some columns := by
  cases columns with
  | nil => rfl
  | cons column columns =>
      have hword : visible [.blank, .keyword .RETURNING, .blank] = [.keyword .RETURNING] := rfl
      have hnone : ([] : List Token).head? ≠ some .comma := by simp
      have hnames := listing?_commaSeparated Token.name? .name (fun _ => rfl) hnone
        (List.cons_ne_nil column columns)
      rw [List.append_nil] at hnames
      rw [returningTokens, if_neg (by simp), visible_append, hword,
        visible_commaSeparated fun _ => rfl, List.singleton_append, returning?, hnames]

theorem visible_intercalate_slotTuple (tuples : List (List Nat)) :
    visible ([.comma].intercalate (tuples.map slotTuple)) =
      [.comma].intercalate (tuples.map slotTuple) := by
  refine visible_of_forall fun t ht => ?_
  rcases mem_intercalate ht with ht | ⟨part, hpart, ht⟩
  · rw [List.mem_singleton.mp ht]
    rfl
  · obtain ⟨slots, -, rfl⟩ := List.mem_map.mp hpart
    exact isBlank_of_mem_slotTuple ht

theorem listing?_slotTuple {tuples : List (List Nat)} (htuples : tuples ≠ [])
    (h : ∀ slots ∈ tuples, slots ≠ []) {rest : List Token} (hrest : rest.head? ≠ some .comma) :
    listing? (parenthesised? (single? Token.slot?))
      ([.comma].intercalate (tuples.map slotTuple) ++ rest) = some (tuples, rest) := by
  obtain ⟨slots, tuples, rfl⟩ := List.exists_cons_of_ne_nil htuples
  exact listing?_intercalate slotTuple hrest slots tuples fun slots hslots more =>
    parenthesised?_slotTuple (h slots hslots) more

theorem visible_insertTokens (table : String) (columns : List String) (rows : Nat)
    (returning : List String) :
    visible (Statement.insertTokens table columns rows returning) =
      .keyword .INSERT :: .keyword .INTO :: .name table ::
        ([.opening] ++ commaSeparated (columns.map .name) ++ [.closing] ++
          .keyword .VALUES ::
            ([.comma].intercalate ((of table columns rows returning).tuples.map slotTuple) ++
              visible (returningTokens returning))) := by
  rw [Statement.insertTokens, visible_append, visible_append, visible_append, visible_append,
    visible_commaSeparated fun _ => rfl, tuplesTokens_of table columns rows returning,
    visible_intercalate_slotTuple]
  simp only [List.append_assoc]
  rfl

/-- The text of an insertion of one row or more is read back. -/
theorem read?_insertTokens {columns : List String} (hcolumns : columns ≠ []) {rows : Nat}
    (hrows : rows ≠ 0) (table : String) (returning : List String) :
    read? (text (Statement.insertTokens table columns rows returning)) =
      some (of table columns rows returning) := by
  have hlex := lex_text (Statement.passage_insertTokens table columns rows returning).separated
  have hnames := parenthesised?_commaSeparated Token.name? .name (fun _ => rfl)
    (.keyword .VALUES ::
      ([.comma].intercalate ((of table columns rows returning).tuples.map slotTuple) ++
        visible (returningTokens returning))) hcolumns
  have hbehind : (visible (returningTokens returning)).head? ≠ some .comma := by
    cases returning <;> simp [returningTokens, visible, Token.isBlank]
  have hsome : (of table columns rows returning).tuples ≠ [] := by simpa [of] using hrows
  have hslots : ∀ slots ∈ (of table columns rows returning).tuples, slots ≠ [] := by
    simpa [of] using fun _ _ => hcolumns
  have htuples := listing?_slotTuple hsome hslots hbehind
  simp only [read?, hlex, visible_insertTokens, hnames, htuples, returning?_returningTokens,
    Option.bind_eq_bind, Option.bind_some]
  rfl

/-! ### Parameters -/

/-- What is stored of a row under a column. -/
def cell (flags : Flags) (row : Row) (column : String) : Json :=
  ((Keyed.get? row column).getD .null).asCell flags

/-- The parameter for a row and a column. -/
theorem getElem?_rowValues (flags : Flags) {columns : List String} {rows : List Row} {i j : Nat}
    {row : Row} {column : String} (hrow : rows[i]? = some row)
    (hcolumn : columns[j]? = some column) :
    (rows.flatMap (rowValues flags columns))[i * columns.length + j]? =
      some (cell flags row column) := by
  obtain ⟨hj, -⟩ := List.getElem?_eq_some_iff.mp hcolumn
  have hlength : ∀ row, (rowValues flags columns row).length = columns.length := by
    simp [rowValues]
  rw [getElem?_flatMap hlength hrow hj, rowValues, List.getElem?_map, hcolumn]
  rfl

section stored

variable (flags : Flags) (table : String) {columns : List String} {rows : List Row}
  (returning : List String)

theorem row?_of {i : Nat} {row : Row} (hrow : rows[i]? = some row) :
    row? columns (rows.flatMap (rowValues flags columns))
        ((List.range columns.length).map fun j => i * columns.length + j + 1) =
      some (columns.map fun column => (column, cell flags row column)) := by
  have hvalues : ((List.range columns.length).map fun j => i * columns.length + j + 1).mapM
      (paramAt? (rows.flatMap (rowValues flags columns))) =
        some (columns.map (cell flags row)) := by
    rw [mapM_eq_some_iff, List.forall₂_map_left_iff, List.forall₂_map_right_iff,
      List.forall₂_iff_get]
    refine ⟨List.length_range, fun j _ hj => ?_⟩
    rw [List.get_eq_getElem, List.getElem_range]
    exact getElem?_rowValues flags hrow (List.getElem?_eq_getElem hj)
  simp [row?, hvalues, List.map_prod_left_eq_zip]

/-- The tuples stand for the cells of the rows under the columns. -/
theorem rows?_of :
    (of table columns rows.length returning).rows? (rows.flatMap (rowValues flags columns)) =
      some (rows.map fun row => columns.map fun column => (column, cell flags row column)) := by
  rw [rows?, mapM_eq_some_iff, of, List.forall₂_map_left_iff, List.forall₂_map_right_iff,
    List.forall₂_iff_get]
  refine ⟨List.length_range, fun i _ hi => ?_⟩
  rw [List.get_eq_getElem, List.getElem_range]
  exact row?_of flags (List.getElem?_eq_getElem hi)

/-- The tuple of a row, and its placeholder for a column. -/
theorem getElem?_tuples_of {i : Nat} (hi : i < rows.length) :
    (of table columns rows.length returning).tuples[i]? =
      some ((List.range columns.length).map fun j => i * columns.length + j + 1) := by
  rw [of, List.getElem?_map, List.getElem?_range hi]
  rfl

/-- A tuple stores the cells of its row under the columns, and nothing else. -/
theorem stores_of_iff (i : Nat) (column : String) (v : Json) :
    (of table columns rows.length returning).Stores (rows.flatMap (rowValues flags columns)) i column
        v ↔ column ∈ columns ∧ ∃ row, rows[i]? = some row ∧ cell flags row column = v := by
  constructor
  · rintro ⟨j, slots, slot, hcolumn, hslots, hslot, hv⟩
    have hcolumn : columns[j]? = some column := hcolumn
    obtain ⟨hj, -⟩ := List.getElem?_eq_some_iff.mp hcolumn
    obtain ⟨hi, -⟩ := List.getElem?_eq_some_iff.mp hslots
    have hi : i < rows.length := by simpa [of] using hi
    have hrow := List.getElem?_eq_getElem hi
    rw [getElem?_tuples_of table returning hi] at hslots
    obtain rfl := Option.some.inj hslots
    rw [List.getElem?_map, List.getElem?_range hj] at hslot
    obtain rfl := Option.some.inj hslot
    have hcell := (getElem?_rowValues flags hrow hcolumn).symm.trans hv
    exact ⟨List.mem_of_getElem? hcolumn, _, hrow, Option.some.inj hcell⟩
  · rintro ⟨hcolumn, row, hrow, rfl⟩
    obtain ⟨j, hj⟩ := List.getElem?_of_mem hcolumn
    obtain ⟨hlt, -⟩ := List.getElem?_eq_some_iff.mp hj
    obtain ⟨hi, -⟩ := List.getElem?_eq_some_iff.mp hrow
    refine ⟨j, _, i * columns.length + j + 1, hj, getElem?_tuples_of table returning hi, ?_,
      getElem?_rowValues flags hrow hj⟩
    rw [List.getElem?_map, List.getElem?_range hlt]
    rfl

end stored

/-! ### Rows with the same columns -/

/-- A row with the given columns in any order is stored as it is, but for the order. -/
theorem perm_of_same_columns (flags : Flags) {columns : List String} {row : Row}
    (hcolumns : columns.Nodup) (h : (Keyed.keys row).Nodup)
    (hsame : ∀ column, column ∈ Keyed.keys row ↔ column ∈ columns) :
    (columns.map fun column => (column, cell flags row column)).Perm
      (row.map fun (column, v) => (column, v.asCell flags)) := by
  -- Neither has a column twice, so having the same columns is enough.
  have hperm : columns.Perm (Keyed.keys row) :=
    (List.perm_ext_iff_of_nodup hcolumns h).mpr fun column => (hsame column).symm
  have hcells : (Keyed.keys row).map (fun column => (column, cell flags row column)) =
      row.map fun (column, v) => (column, v.asCell flags) := by
    rw [Keyed.keys, List.map_map]
    refine List.map_congr_left fun entry hentry => ?_
    rw [Function.comp_apply, cell, Keyed.get?_of_mem h hentry, Option.getD_some]
  exact hcells ▸ hperm.map _

/-! ### Statements -/

/-- What the statement for rows says, and its parameters. -/
theorem read?_insert {flags : Flags} {table : String} {rows : List Row} {returning : List String}
    {s : Statement} (h : Statement.insert flags table rows returning = .ok (some s)) :
    let insertion := of table (Operation.columns rows) rows.length returning
    s.sql = insertion.written ∧ read? s.sql = some insertion ∧
      s.params = rows.flatMap (rowValues flags (Operation.columns rows)) := by
  intro insertion
  have hop : (Operation.insert rows returning).statement? flags table = .ok (some s) := h
  obtain ⟨first, rest, hrows, hfirst⟩ := (Operation.valid_iff flags table _).mpr ⟨s, hop⟩
  have hs := Operation.statement?_eq hop
  have hsql : s.sql = text ((Operation.insert rows returning).tokens table) := by rw [hs]
  have hparams : s.params = (Operation.insert rows returning).values flags := by rw [hs]
  have hcolumns : Operation.columns rows ≠ [] := by
    simpa [hrows, Operation.columns, Keyed.keys] using hfirst
  have hlength : rows.length ≠ 0 := by simp [hrows]
  rw [Operation.tokens] at hsql
  refine ⟨?_, ?_, hparams⟩
  · rw [hsql]
    exact text_insertTokens table (Operation.columns rows) rows.length returning
  · rw [hsql]
    exact read?_insertTokens hcolumns hlength table returning

/-- The statement for the rows, if there is one, is all that is sent. -/
theorem connection_insert (diagnostics : Diagnostics) (flags : Flags) (table : String)
    (rows : List Row) (returning : List String) (world : World Script) :
    (((Database.scripted diagnostics flags).insert table rows returning).run world).2.connection =
      match Statement.insert flags table rows returning with
      | .ok (some s) => (world.sent s).connection
      | _ => world.connection := by
  have hact : (Step.table table (.insert rows returning)).run (.scripted diagnostics flags) = do
      return (← (Database.scripted diagnostics flags).insert table rows returning).map .rows := rfl
  exact Step.connection_of_run diagnostics flags hact world

/-- One statement is sent for a list of rows, with a tuple of placeholders for each row in order.
The parameter for a row and a column of the first row is the row's cell under this column, or null
if there is none.  Rows with the columns of the first row, in whatever order, are what is stored.  A
cell that is a list is written as its JSON text if there is the flag for it, and every other cell is
written as it is. -/
theorem inserts_rows_in_order (diagnostics : Diagnostics) (flags : Flags) (table : String)
    {first : Row} (hfirst : first ≠ []) (rest : List Row) (returning : List String)
    (world : World Script) :
    let rows := first :: rest
    let columns := Keyed.keys first
    let insertion := of table columns rows.length returning
    ∃ s, (((Database.scripted diagnostics flags).insert table rows returning).run
        world).2.connection =
          ⟨world.connection.responses.tail, world.connection.executed ++ [s]⟩ ∧
      s.sql = insertion.written ∧
      read? s.sql = some insertion ∧
      s.params.length = rows.length * columns.length ∧
      (∀ i j row column, rows[i]? = some row → columns[j]? = some column →
        s.params[i * columns.length + j]? =
          some (match Keyed.get? row column with
            | some v => v.asCell flags
            | none => .null)) ∧
      ((∀ row ∈ rows, (Keyed.keys row).Nodup ∧
          ∀ column, column ∈ Keyed.keys row ↔ column ∈ columns) →
        ∃ stored, insertion.rows? s.params = some stored ∧
          stored.Forall₂ (fun cells row =>
            cells.Perm (row.map fun (column, v) => (column, v.asCell flags))) rows) ∧
      (∀ items : List Json, (Json.array items).asCell flags =
        if flags.arrayAsJson then .string (Json.array items).text else .array items) ∧
      ∀ v : Json, (∀ items, v ≠ .array items) → v.asCell flags = v := by
  intro rows columns insertion
  obtain ⟨s, hs⟩ : ∃ s, Statement.insert flags table rows returning = .ok (some s) :=
    ⟨_, Statement.insert_eq flags table first rest returning hfirst⟩
  obtain ⟨hsql, hread, hparams⟩ := read?_insert hs
  have hparams : s.params = rows.flatMap (rowValues flags columns) := hparams
  refine ⟨s, ?_, hsql, hread, ?_, ?_, ?_, Json.asCell_array flags,
    fun _ => Json.asCell_of_ne_array flags⟩
  · rw [connection_insert, hs]
    rfl
  · rw [hparams, Operation.length_rowValues]
  · intro i j row column hrow hcolumn
    rw [hparams, getElem?_rowValues flags hrow hcolumn, cell]
    cases Keyed.get? row column <;> rfl
  · intro hsame
    rw [hparams]
    refine ⟨_, rows?_of flags table returning, ?_⟩
    rw [List.forall₂_map_left_iff, List.forall₂_same]
    intro row hrow
    -- The first row is one of the rows, so its columns are distinct as well.
    have hnodup := (hsame first List.mem_cons_self).1
    exact perm_of_same_columns flags hnodup (hsame row hrow).1 (hsame row hrow).2

/-- Two rows with the same columns, one of them quoted, in different orders. -/
def reorderedRows : List Row :=
  [[("n\"", .nat 1), ("a", .array [.nat 1, .nat 2])], [("a", .array []), ("n\"", .nat 7)]]

/-- The list in the first row is bound as its text with the flag, and as the list without. -/
theorem inserts_rows_in_order_reorderedRows :
    let world : World Script := ⟨⟨[.ok {}], []⟩, []⟩
    (∃ s, (((Database.scripted (fun _ => []) { arrayAsJson := true }).insert "t" reorderedRows
        ["id"]).run world).2.connection = ⟨[], [s]⟩ ∧
      s.sql = "INSERT INTO \"t\" (\"n\"\"\",\"a\") VALUES ($1,$2),($3,$4) RETURNING \"id\"" ∧
      s.params.length = 4 ∧ s.params[1]? = some (.string "[1,2]") ∧
      s.params[2]? = some (.nat 7) ∧ s.params[3]? = some (.string "[]")) ∧
    ∃ s, (((Database.scripted (fun _ => []) {}).insert "t" reorderedRows ["id"]).run
        world).2.connection = ⟨[], [s]⟩ ∧
      s.params.length = 4 ∧ s.params[1]? = some (.array [.nat 1, .nat 2]) ∧
      s.params[2]? = some (.nat 7) ∧ s.params[3]? = some (.array []) ∧
      ∃ stored, (of "t" ["n\"", "a"] 2 ["id"]).rows? s.params = some stored ∧
        stored.Forall₂ List.Perm reorderedRows := by
  intro world
  have hfirst := List.cons_ne_nil ("n\"", Json.nat 1) [("a", .array [.nat 1, .nat 2])]
  have htext : (Json.array [.nat 1, .nat 2]).text = "[1,2]" := by decide +kernel
  constructor
  · obtain ⟨s, hsent, hsql, -, hlength, hcells, -, hlists, -⟩ :=
      inserts_rows_in_order (fun _ => []) { arrayAsJson := true } "t" hfirst
        [[("a", .array []), ("n\"", .nat 7)]] ["id"] world
    have hlist := hcells 0 1 _ "a" rfl rfl
    have hwritten := hlists [.nat 1, .nat 2]
    rw [htext] at hwritten
    exact ⟨s, hsent, hsql.trans (by decide), hlength, hlist.trans (congrArg some hwritten),
      hcells 1 0 _ "n\"" rfl rfl, hcells 1 1 _ "a" rfl rfl⟩
  · obtain ⟨s, hsent, -, -, hlength, hcells, hstored, -⟩ :=
      inserts_rows_in_order (fun _ => []) {} "t" hfirst
        [[("a", .array []), ("n\"", .nat 7)]] ["id"] world
    have hsame : ∀ row ∈ reorderedRows, (Keyed.keys row).Nodup ∧
        ∀ column, column ∈ Keyed.keys row ↔ column ∈ ["n\"", "a"] := by
      intro row hrow
      obtain rfl | hrow := List.mem_cons.mp hrow
      · exact ⟨by decide, fun _ => Iff.rfl⟩
      · obtain rfl := List.mem_singleton.mp hrow
        exact ⟨by decide, fun column => by simp [Keyed.keys, or_comm]⟩
    obtain ⟨stored, hread, hperm⟩ := hstored hsame
    refine ⟨s, hsent, hlength, hcells 0 1 _ "a" rfl rfl, hcells 1 0 _ "n\"" rfl rfl,
      hcells 1 1 _ "a" rfl rfl, stored, hread, hperm.imp fun cells row h => ?_⟩
    simpa only [Json.asCell_of_not, List.map_id'] using h

theorem insert_of_sent {diagnostics : Diagnostics} {flags : Flags} {table : String}
    {rows : List Row} {returning : List String} {world : World Script} {s : Statement}
    (hsent : (((Database.scripted diagnostics flags).insert table rows returning).run
      world).2.connection.executed = world.connection.executed ++ [s]) :
    Statement.insert flags table rows returning = .ok (some s) := by
  rw [connection_insert] at hsent
  match Statement.insert flags table rows returning, hsent with
  | .ok (some s'), hsent => simpa [World.sent] using hsent
  | .ok none, hsent | .error e, hsent => simp at hsent

/-- When a statement is sent, the cells of all rows under the columns of the first one are in it,
each in the tuple of its row.  There are no other columns. -/
theorem stores_cells_of_first_columns {diagnostics : Diagnostics} {flags : Flags} {table : String}
    {rows : List Row} {returning : List String} {world : World Script} {s : Statement}
    (hsent : (((Database.scripted diagnostics flags).insert table rows returning).run
      world).2.connection.executed = world.connection.executed ++ [s]) :
    ∃ insertion, read? s.sql = some insertion ∧
      insertion.columns = Operation.columns rows ∧
      ∀ i row column v, rows[i]? = some row → Keyed.get? row column = some v →
        (insertion.Stores s.params i column (v.asCell flags) ↔ column ∈ Operation.columns rows) := by
  obtain ⟨-, hread, hparams⟩ := read?_insert (insert_of_sent hsent)
  refine ⟨_, hread, rfl, fun i row column v hrow hv => ?_⟩
  rw [hparams, stores_of_iff flags table returning i column]
  have hcell : cell flags row column = v.asCell flags := by rw [cell, hv, Option.getD_some]
  exact ⟨And.left, fun hcolumn => ⟨hcolumn, row, hrow, hcell⟩⟩

/-- Two rows with lists under the column of the first one. -/
def listRows : List Row :=
  [[("a", .array [])], [("x", .nat 9), ("a", .array [.nat 2, .null])]]

/-- The list is stored in the tuple of its row, as its text with the flag. -/
theorem stores_cells_of_first_columns_shared :
    let world : World Script := ⟨⟨[.ok {}], []⟩, []⟩
    (∃ s, (((Database.scripted (fun _ => []) { arrayAsJson := true }).insert "t" listRows).run
        world).2.connection.executed = [s] ∧
      ∃ insertion, read? s.sql = some insertion ∧
        insertion.Stores s.params 1 "a" (.string "[2,null]")) ∧
    ∃ s, (((Database.scripted (fun _ => []) {}).insert "t" listRows).run
        world).2.connection.executed = [s] ∧
      ∃ insertion, read? s.sql = some insertion ∧
        insertion.Stores s.params 1 "a" (.array [.nat 2, .null]) := by
  intro world
  have hcolumn : "a" ∈ Operation.columns listRows := by decide
  constructor
  · have hsent : (((Database.scripted (fun _ => []) { arrayAsJson := true }).insert "t"
        listRows).run world).2.connection.executed = world.connection.executed ++ [_] := rfl
    obtain ⟨insertion, hread, -, hstores⟩ := stores_cells_of_first_columns hsent
    have htext : (Json.array [.nat 2, .null]).text = "[2,null]" := by decide +kernel
    have hstored := (hstores 1 _ "a" (.array [.nat 2, .null]) rfl rfl).mpr hcolumn
    rw [Json.asCell_array, if_pos rfl, htext] at hstored
    exact ⟨_, hsent, insertion, hread, hstored⟩
  · have hsent : (((Database.scripted (fun _ => []) {}).insert "t" listRows).run
        world).2.connection.executed = world.connection.executed ++ [_] := rfl
    obtain ⟨insertion, hread, -, hstores⟩ := stores_cells_of_first_columns hsent
    exact ⟨_, hsent, insertion, hread, (hstores 1 _ "a" _ rfl rfl).mpr hcolumn⟩

/-- Two rows of which the second has a column more than the first. -/
def surplusRows : List Row := [[("a", .nat 1)], [("a", .nat 2), ("x", .nat 9)]]

/-- The cell of the surplus column is nowhere in the statement that is sent. -/
theorem stores_cells_of_first_columns_surplus :
    let world : World Script := ⟨⟨[.ok {}], []⟩, []⟩
    ∃ s, (((Database.scripted (fun _ => []) {}).insert "t" surplusRows).run
        world).2.connection.executed = [s] ∧
      Keyed.get? [("a", Json.nat 2), ("x", Json.nat 9)] "x" = some (.nat 9) ∧
      s.params = [.nat 1, .nat 2] ∧
      ∃ insertion, read? s.sql = some insertion ∧ "x" ∉ insertion.columns ∧
        ¬ insertion.Stores s.params 1 "x" (.nat 9) := by
  intro world
  have hsent : (((Database.scripted (fun _ => []) {}).insert "t" surplusRows).run
      world).2.connection.executed = world.connection.executed ++ [_] := rfl
  obtain ⟨-, hread, hparams⟩ := read?_insert (insert_of_sent hsent)
  have hsurplus : "x" ∉ Operation.columns surplusRows := by decide
  refine ⟨_, hsent, rfl, hparams.trans rfl, _, hread, hsurplus, fun hstores => ?_⟩
  rw [hparams] at hstores
  exact hsurplus ((stores_of_iff {} "t" ["id"] 1 "x" (.nat 9)).mp hstores).1

end Insertion

end PgCollections
