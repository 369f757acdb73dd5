import PgCollections.Proofs.Database.Step
import PgCollections.Proofs.Sql.Listing
import PgCollections.Proofs.Sql.Selection

/-! # Updates

An `Update` is what an updating statement says: the table, the columns with their new values, and
the leaf conditions of its restriction.  `Update.read?` takes a statement apart again.  One column
is assigned plainly, and several are assigned as a row.

The new values and the values of the filter go into one list of parameters.  The main statement is
`Update.assigns_changes_under_conditions`: the new values come first, each under the placeholder
that its column is assigned, and the restriction counts on from there. -/

namespace PgCollections

open Sql

/-- An updating statement with its values. -/
structure Update where
  table : String
  changes : Row
  conditions : List Leaf

namespace Update

/-- How assignments of placeholders to columns are written. -/
def assigned : List (String × Nat) → String
  | [(column, slot)] => quoteIdentifier column ++ " = " ++ placeholder slot
  | assignments =>
    "(" ++ ",".intercalate ((assignments.map Prod.fst).map quoteIdentifier) ++ ") = (" ++
      ",".intercalate ((assignments.map Prod.snd).map placeholder) ++ ")"

/-! ### Reading -/

/-- The columns with their placeholders.  A row of one column is not assigned as a row. -/
def assignments? : Reader (List (String × Nat))
  | .name column :: .comparison .eq :: .slot i :: ts => some ([(column, i)], ts)
  | ts => do
    match ← parenthesised? (single? Token.name?) ts with
    | (columns, .comparison .eq :: ts) =>
      let (slots, ts) ← parenthesised? (single? Token.slot?) ts
      if 1 < columns.length ∧ columns.length = slots.length then some (columns.zip slots, ts)
      else none
    | _ => none

/-- The column with its new value. -/
def change? (params : List Json) : String × Nat → Option (String × Json)
  | (column, slot) => (paramAt? params slot).map (column, ·)

/-- What an updating statement says. -/
def read? (s : Statement) : Option Update := do
  let tokens ← lex s.sql.toList
  match visible tokens with
  | .keyword .UPDATE :: .name table :: .keyword .SET :: ts =>
    let (assignments, ts) ← assignments? ts
    let changes ← assignments.mapM (change? s.params)
    return ⟨table, changes, ← Selection.conditions? s.params ts⟩
  | _ => none

/-! ### Assignments -/

theorem text_assignmentTokens (n : Nat) {columns : List String} (h : columns ≠ []) :
    text (assignmentTokens n columns) = assigned (columns.zipIdx (n + 1)) := by
  rcases columns with _ | ⟨column, _ | ⟨next, columns⟩⟩
  · exact absurd rfl h
  · simp [assignmentTokens, assigned, Token.text, Comparison.symbol, ← String.toList_inj]
  · have hnames := List.zipIdx_map_fst (n + 1) (column :: next :: columns)
    have hslots := List.zipIdx_map_snd (n + 1) (column :: next :: columns)
    have hassigned : assigned ((column :: next :: columns).zipIdx (n + 1)) = _ :=
      assigned.eq_2 _ (by simp)
    have htokens : assignmentTokens n (column :: next :: columns) =
        rowAssignmentTokens n (column :: next :: columns) := rfl
    rw [hassigned, hnames, hslots, htokens, text_rowAssignmentTokens]
    simp [← String.toList_inj, quoteIdentifiers, tuple, slotsAfter]

theorem visible_rowAssignmentTokens (n : Nat) (columns : List String) :
    visible (rowAssignmentTokens n columns) =
      [.opening] ++ commaSeparated (columns.map .name) ++ [.closing] ++
        .comparison .eq :: slotTuple (slotsAfter n columns.length) := by
  have hslots : visible (tupleTokens n columns.length) = slotTuple (slotsAfter n columns.length) :=
    visible_of_forall fun _ => isBlank_of_mem_slotTuple
  have heq : visible [.closing, .blank, .comparison .eq, .blank] = [.closing, .comparison .eq] := rfl
  rw [rowAssignmentTokens, visible_append, visible_append, visible_append,
    visible_commaSeparated fun _ => rfl, hslots, heq]
  simp [visible, Token.isBlank]

theorem assignments?_row {columns : List String} {slots : List Nat} (h : 1 < columns.length)
    (hlength : columns.length = slots.length) (rest : List Token) :
    assignments? ([.opening] ++ commaSeparated (columns.map .name) ++ [.closing] ++
      .comparison .eq :: (slotTuple slots ++ rest)) = some (columns.zip slots, rest) := by
  have hcolumns : columns ≠ [] := List.ne_nil_of_length_pos (by omega)
  have hmany : 1 < slots.length := hlength ▸ h
  have hslots : slots ≠ [] := List.ne_nil_of_length_pos (by omega)
  have hnames := parenthesised?_commaSeparated Token.name? .name (fun _ => rfl)
    (.comparison .eq :: (slotTuple slots ++ rest)) hcolumns
  have hread := parenthesised?_slotTuple hslots rest
  rw [assignments?, hnames, Option.bind_eq_bind, Option.bind_some]
  · simp [hread, hlength, hmany]
  · simp

/-- Assignments are read back. -/
theorem assignments?_assignmentTokens (n : Nat) {columns : List String} (h : columns ≠ [])
    (rest : List Token) :
    assignments? (visible (assignmentTokens n columns) ++ rest) =
      some (columns.zipIdx (n + 1), rest) := by
  rcases columns with _ | ⟨column, _ | ⟨next, columns⟩⟩
  · exact absurd rfl h
  · rfl
  · have htokens : assignmentTokens n (column :: next :: columns) =
        rowAssignmentTokens n (column :: next :: columns) := rfl
    have hlength : 1 < (column :: next :: columns).length := by simp
    rw [htokens, visible_rowAssignmentTokens, List.append_assoc, List.cons_append,
      List.zipIdx_eq_zip_range']
    exact assignments?_row hlength (by simp [slotsAfter]) rest

/-- The values supplied for the placeholders are the new values of the columns. -/
theorem mapM_change? {params : List Json} {n : Nat} (encode : Json → Json) {changes : Row}
    (h : Supplied params n (changes.map fun (_, v) => encode v)) :
    ((Keyed.keys changes).zipIdx (n + 1)).mapM (change? params) =
      some (changes.map fun (column, v) => (column, encode v)) := by
  induction changes generalizing n with
  | nil => rfl
  | cons entry changes ih =>
      obtain ⟨hv, hrest⟩ := supplied_cons.mp h
      have ih := ih hrest
      rw [Keyed.keys] at ih
      simp [Keyed.keys, change?, hv, ih]

/-! ### Statements -/

theorem text_updateTokens (table : String) {columns : List String} (h : columns ≠ [])
    (ls : List Leaf) :
    text (Statement.updateTokens table columns ls) =
      "UPDATE " ++ quoteIdentifier table ++ " SET " ++ assigned (columns.zipIdx 1) ++
        text (Leaf.restriction columns.length ls) := by
  rw [Statement.updateTokens, text_append, text_append, text_assignmentTokens 0 h]
  simp [Token.text, Keyword.text, ← String.toList_inj]

theorem visible_updateTokens (table : String) (columns : List String) (ls : List Leaf) :
    visible (Statement.updateTokens table columns ls) =
      .keyword .UPDATE :: .name table :: .keyword .SET ::
        (visible (assignmentTokens 0 columns) ++
          visible (Leaf.restriction columns.length ls)) := by
  rw [Statement.updateTokens, visible_append, visible_append, List.append_assoc]
  rfl

/-- The text of an update is read back, with the parameters in the places of the placeholders. -/
theorem read?_updateTokens (encode : Json → Json) (table : String) {changes : Row}
    (h : changes ≠ []) (ls : List Leaf) :
    read? ⟨text (Statement.updateTokens table (Keyed.keys changes) ls),
        (changes.map fun (_, v) => encode v) ++ Leaf.allValues ls⟩ =
      some ⟨table, changes.map fun (column, v) => (column, encode v), ls⟩ := by
  have hcolumns : Keyed.keys changes ≠ [] := by simpa [Keyed.keys] using h
  have hlex := lex_text (Statement.passage_updateTokens table (Keyed.keys changes) ls).separated
  have hassignments := assignments?_assignmentTokens 0 hcolumns
    (visible (Leaf.restriction (Keyed.keys changes).length ls))
  have hchanges := mapM_change? encode
    (supplied_middle [] (changes.map fun (_, v) => encode v) (Leaf.allValues ls))
  have hvalues := supplied_middle (changes.map fun (_, v) => encode v) (Leaf.allValues ls) []
  have hlength : (changes.map fun (_, v) => encode v).length = (Keyed.keys changes).length := by
    simp [Keyed.keys]
  rw [List.append_nil, hlength] at hvalues
  have hconditions := Selection.conditions?_restriction hvalues
  rw [List.nil_append, List.length_nil] at hchanges
  simp only [read?, hlex, visible_updateTokens, hassignments, hchanges, hconditions,
    Option.bind_eq_bind, Option.bind_some]
  rfl

theorem connection_update (diagnostics : Diagnostics) (flags : Flags) (table : String)
    (filter : Filter) (changes : Row) {s : Statement}
    (h : Statement.update flags table filter changes = .ok s) (world : World Script) :
    (((Database.scripted diagnostics flags).update table filter changes).run world).2.connection =
      (world.sent s).connection := by
  have hact : (Step.table table (.update filter changes)).run (.scripted diagnostics flags) = do
      return (← (Database.scripted diagnostics flags).update table filter changes).map .count := rfl
  have hop : (Step.table table (.update filter changes)).statement? flags = .ok (some s) := by
    rw [Step.statement?, Operation.statement?, h]
    rfl
  rw [Step.connection_of_run diagnostics flags hact world, hop]

/-- One statement is sent for an update whose filter has a text.  It assigns to each column the
placeholder of its new value, with the numbers from 1 on, and its restriction is what the filter
compiles to behind these values: it counts on from them, and its values follow them as they are.
Read back, the statement says what was asked for. -/
theorem assigns_changes_under_conditions (diagnostics : Diagnostics) (flags : Flags)
    (table : String) {changes : Row} (hchanges : changes ≠ []) {filter : Filter}
    (hfilter : filter.Compiles) (world : World Script) :
    let count := changes.length
    let cells := changes.map fun (_, v) => v.asCell flags
    let values := Leaf.allValues filter.leaves
    ∃ s clause,
      (((Database.scripted diagnostics flags).update table filter changes).run
        world).2.connection =
          ⟨world.connection.responses.tail, world.connection.executed ++ [s]⟩ ∧
      s.sql = "UPDATE " ++ quoteIdentifier table ++ " SET " ++
        assigned ((Keyed.keys changes).zipIdx 1) ++ clause ∧
      s.params = cells ++ values ∧
      filter.whereClause.runFrom ⟨count, cells⟩ =
        (.ok clause, ⟨count + values.length, cells ++ values⟩) ∧
      (∃ ts, lex clause.toList = some ts ∧
        ts.filterMap Token.slot? = List.range' (count + 1) values.length) ∧
      s.Numbered ∧
      read? s =
        some ⟨table, changes.map fun (column, v) => (column, v.asCell flags), filter.leaves⟩ := by
  intro count cells values
  have hcolumns : Keyed.keys changes ≠ [] := by simpa [Keyed.keys] using hchanges
  have hcount : (Keyed.keys changes).length = count := by simp [Keyed.keys, count]
  have hfault := filter.compiles_iff.mp hfilter
  have hclause := Leaf.passage_restriction count filter.leaves
  obtain ⟨s, hstatement, hs⟩ : ∃ s, Statement.update flags table filter changes = .ok s ∧
      s = ⟨text (Statement.updateTokens table (Keyed.keys changes) filter.leaves),
        cells ++ values⟩ := by
    rw [Statement.update_eq flags table filter changes hchanges]
    exact ⟨_, Filter.checked_eq_ok_iff.mpr ⟨hfault, rfl⟩, rfl⟩
  have hop : (Operation.update filter changes).statement? flags table = .ok (some s) := by
    rw [Operation.statement?, hstatement]
    rfl
  refine ⟨s, text (Leaf.restriction count filter.leaves),
    connection_update diagnostics flags table filter changes hstatement world, ?_, ?_, ?_, ?_,
    Operation.numbered_of_statement? hop, ?_⟩
  · rw [hs]
    dsimp only
    rw [text_updateTokens table hcolumns, hcount]
  · rw [hs]
  · rw [Filter.runFrom_whereClause, Filter.checked_eq_ok_iff.mpr ⟨hfault, rfl⟩]
    rfl
  · refine ⟨_, lex_text hclause.separated, ?_⟩
    rw [hclause.slots, Nat.add_sub_cancel_left]
    rfl
  · rw [hs]
    exact read?_updateTokens (·.asCell flags) table hchanges filter.leaves

/-- A filter on a column that is changed as well, with a conjunction and a list. -/
def nestedConditions : Filter :=
  ⟨[("a", .value (.nat 7)),
    ("n", .operator (.all [.compare .lt (.nat 3), .all [.oneOf [.array [.nat 4]]]]))]⟩

theorem assigns_changes_under_conditions_nestedConditions :
    let changes : Row := [("c\"", .array [.nat 1]), ("a", .nat 2)]
    let world : World Script := ⟨⟨[.ok {}], []⟩, []⟩
    nestedConditions.Compiles ∧
      ∃ s, (((Database.scripted (fun _ => []) { arrayAsJson := true }).update "t" nestedConditions
          changes).run world).2.connection = ⟨[], [s]⟩ ∧
        s.sql = "UPDATE \"t\" SET (\"c\"\"\",\"a\") = ($1,$2)" ++
          " WHERE \"a\" = $3 AND \"n\" < $4 AND \"n\" IN ($5)" ∧
        s.params = [.string "[1]", .nat 2, .nat 7, .nat 3, .array [.nat 4]] ∧
        read? s = some ⟨"t", [("c\"", .string "[1]"), ("a", .nat 2)], nestedConditions.leaves⟩ := by
  intro changes world
  have hfilter : nestedConditions.Compiles := nestedConditions.compiles_iff.mpr rfl
  obtain ⟨s, clause, hsent, hsql, hparams, hclause, -, -, hread⟩ :=
    assigns_changes_under_conditions (fun _ => []) { arrayAsJson := true } "t"
      (List.cons_ne_nil _ _ : changes ≠ []) hfilter world
  have hwritten : nestedConditions.whereClause.runFrom ⟨2, [.string "[1]", .nat 2]⟩ =
      (.ok " WHERE \"a\" = $3 AND \"n\" < $4 AND \"n\" IN ($5)", _) := rfl
  obtain ⟨hok, -⟩ := Prod.mk.inj (hclause.symm.trans hwritten)
  obtain rfl := Except.ok.inj hok
  exact ⟨hfilter, s, hsent, hsql.trans (by decide), hparams, hread⟩

end Update

end PgCollections
