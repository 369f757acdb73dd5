import PgCollections.Proofs.Sql.Clause
import PgCollections.Schema.Table

/-! # Statements read back

An `Operation` on a table, with its statement.  Each statement is the text of a list of tokens that
is a `Passage` from the first placeholder on, so that reading the text gives these tokens back
whatever the names are.  The main statement is `Operation.lex_of_statement?`: the placeholders of a
statement are `$1`, `$2`, … up to the number of its parameters, each once and in order; its
identifiers are the names of the operation, and its parameters the values. -/

namespace PgCollections

open Sql

namespace Statement

/-! ### The tokens of statements -/

def selectTokens (table : String) (ls : List Leaf) (options : FindOptions) : List Token :=
  [.keyword .SELECT, .blank, .star, .blank, .keyword .FROM, .blank, .name table] ++
    Leaf.restriction 0 ls ++ Order.clauseTokens options.order ++
    pageTokens (Leaf.allValues ls).length options.page

def insertTokens (table : String) (columns : List String) (rows : Nat) (returning : List String) :
    List Token :=
  [.keyword .INSERT, .blank, .keyword .INTO, .blank, .name table, .blank, .opening] ++
    commaSeparated (columns.map .name) ++ [.closing, .blank, .keyword .VALUES, .blank] ++
    [.comma].intercalate (tuplesTokens 0 columns.length rows) ++ returningTokens returning

def updateTokens (table : String) (columns : List String) (ls : List Leaf) : List Token :=
  [.keyword .UPDATE, .blank, .name table, .blank, .keyword .SET, .blank] ++
    assignmentTokens 0 columns ++ Leaf.restriction columns.length ls

def deleteTokens (table : String) (ls : List Leaf) : List Token :=
  [.keyword .DELETE, .blank, .keyword .FROM, .blank, .name table] ++ Leaf.restriction 0 ls

def dropTokens (table : String) : List Token :=
  [.keyword .DROP, .blank, .keyword .TABLE, .blank, .name table]

theorem select_eq (table : String) (filter : Filter) (options : FindOptions) :
    select table filter options =
      filter.checked ⟨text (selectTokens table filter.leaves options),
        Leaf.allValues filter.leaves ++ pageValues options.page⟩ := by
  rw [select, Building.statement, Building.runFrom_seq, Filter.runFrom_whereClause]
  unfold Filter.checked
  cases filter.fault? with
  | some e => rfl
  | none =>
      dsimp only
      rw [Building.runFrom_seq_ok _ (runFrom_pageClauses options _), selectTokens, text_append,
        text_append, text_append, Order.text_clauseTokens]
      simp [Token.text, Keyword.text, ← String.toList_inj]

theorem insert_eq (flags : Flags) (table : String) (first : Row) (rows : List Row)
    (returning : List String) (h : first ≠ []) :
    insert flags table (first :: rows) returning =
      .ok (some ⟨text (insertTokens table (Keyed.keys first) (rows.length + 1) returning),
        (first :: rows).flatMap (rowValues flags (Keyed.keys first))⟩) := by
  have hfirst : first.isEmpty = false := by simpa [List.isEmpty_eq_false_iff] using h
  simp only [insert, hfirst, Bool.false_eq_true, if_false]
  rw [Building.statement,
    Building.runFrom_seq_ok _ (runFrom_mapM_bindRow flags (Keyed.keys first) (first :: rows) {})]
  rw [insertTokens, text_append, text_append, text_append, text_append, text_names,
    text_returningTokens, text_intercalate]
  simp [Token.text, Keyword.text, ← String.toList_inj]

theorem update_eq (flags : Flags) (table : String) (filter : Filter) (changes : Row)
    (h : changes ≠ []) :
    update flags table filter changes =
      filter.checked ⟨text (updateTokens table (Keyed.keys changes) filter.leaves),
        (changes.map fun (_, v) => v.asCell flags) ++ Leaf.allValues filter.leaves⟩ := by
  have hchanges : changes.isEmpty = false := by simpa [List.isEmpty_eq_false_iff] using h
  simp only [update, hchanges, Bool.false_eq_true, if_false]
  rw [Building.statement, Building.runFrom_seq_ok _ (runFrom_setClause flags changes {}),
    Building.runFrom_seq, Filter.runFrom_whereClause]
  unfold Filter.checked
  cases filter.fault? with
  | some e => rfl
  | none =>
      rw [updateTokens, text_append, text_append]
      simp [Token.text, Keyword.text, Keyed.keys, ← String.toList_inj]

theorem delete_eq (table : String) (filter : Filter) :
    delete table filter =
      filter.checked ⟨text (deleteTokens table filter.leaves), Leaf.allValues filter.leaves⟩ := by
  rw [delete, Building.statement, Building.runFrom_seq, Filter.runFrom_whereClause]
  unfold Filter.checked
  cases filter.fault? with
  | some e => rfl
  | none =>
      rw [deleteTokens, text_append]
      simp [Token.text, Keyword.text, ← String.toList_inj]

theorem dropTable_eq (table : String) : dropTable table = ⟨text (dropTokens table), []⟩ := by
  simp [dropTable, dropTokens, Token.text, Keyword.text, ← String.toList_inj]

/-! ### Passages -/

theorem passage_selectTokens (table : String) (ls : List Leaf) (options : FindOptions) :
    Passage (selectTokens table ls options) 0
      (Leaf.allValues ls ++ pageValues options.page).length
      (table :: (ls.filterMap Leaf.field? ++ options.order.map Order.key)) := by
  have hopen : Passage
      [.keyword .SELECT, .blank, .star, .blank, .keyword .FROM, .blank, .name table] 0 0 [table] :=
    Passage.of_separated (by simp) rfl rfl 0
  have hwhere := hopen.append (Leaf.passage_restriction 0 ls)
    (.inr (Leaf.isLoose_head_restriction 0 ls))
  have horder := hwhere.append (Order.passage_clauseTokens _ options.order)
    (.inr (Order.isLoose_head_clauseTokens options.order))
  have hpage := horder.append (passage_pageTokens _ options.page)
    (.inr (isLoose_head_pageTokens _ options.page))
  simpa [selectTokens] using hpage

theorem passage_insertTokens (table : String) (columns : List String) (rows : Nat)
    (returning : List String) :
    Passage (insertTokens table columns rows returning) 0 (rows * columns.length)
      (table :: (columns ++ returning)) := by
  have hopen : Passage
      [.keyword .INSERT, .blank, .keyword .INTO, .blank, .name table, .blank, .opening]
      0 0 [table] := Passage.of_separated (by simp) rfl rfl 0
  have hvalues : Passage [.closing, .blank, .keyword .VALUES, .blank] 0 0 [] :=
    Passage.of_separated (by simp) rfl rfl 0
  have hcolumns := (hopen.append (passage_names 0 columns) (.inl (by simp [Token.isLoose]))).append
    hvalues (.inr (by simp [Token.isLoose]))
  have hrows := hcolumns.append (passage_tuplesTokens 0 columns.length rows)
    (.inl (by rw [List.getLast?_append_of_ne_nil _ (by simp)]; simp [Token.isLoose]))
  have hreturning := hrows.append (passage_returningTokens _ returning)
    (.inr (isLoose_head_returningTokens returning))
  simpa [insertTokens] using hreturning

theorem passage_updateTokens (table : String) (columns : List String) (ls : List Leaf) :
    Passage (updateTokens table columns ls) 0 (columns.length + (Leaf.allValues ls).length)
      (table :: (columns ++ ls.filterMap Leaf.field?)) := by
  have hopen : Passage [.keyword .UPDATE, .blank, .name table, .blank, .keyword .SET, .blank]
      0 0 [table] := Passage.of_separated (by simp) rfl rfl 0
  have hset := hopen.append (passage_assignmentTokens 0 columns) (.inl (by simp [Token.isLoose]))
  rw [Nat.zero_add] at hset
  have hwhere := hset.append (Leaf.passage_restriction columns.length ls)
    (.inr (Leaf.isLoose_head_restriction _ ls))
  simpa [updateTokens] using hwhere

theorem passage_deleteTokens (table : String) (ls : List Leaf) :
    Passage (deleteTokens table ls) 0 (Leaf.allValues ls).length
      (table :: ls.filterMap Leaf.field?) := by
  have hopen : Passage [.keyword .DELETE, .blank, .keyword .FROM, .blank, .name table]
      0 0 [table] := Passage.of_separated (by simp) rfl rfl 0
  have hwhere := hopen.append (Leaf.passage_restriction 0 ls)
    (.inr (Leaf.isLoose_head_restriction 0 ls))
  simpa [deleteTokens] using hwhere

theorem passage_dropTokens (table : String) : Passage (dropTokens table) 0 0 [table] :=
  Passage.of_separated (by simp [dropTokens]) rfl rfl 0

end Statement

/-! ### Operations -/

/-- An operation on a table that is carried out by one statement. -/
inductive Operation where
  | find (filter : Filter) (options : FindOptions)
  | findByIds (filter : Filter) (options : FindOptions)
  | insert (rows : List Row) (returning : List String)
  | update (filter : Filter) (changes : Row)
  | remove (filter : Filter)
  | drop

namespace Operation

/-- The statement of an operation, if it needs one. -/
def statement? (flags : Flags) (table : String) : Operation → Except DbError (Option Statement)
  | find filter options => some <$> Statement.select table filter options
  | findByIds filter options => some <$> Statement.selectByIds table filter options
  | insert rows returning => Statement.insert flags table rows returning
  | update filter changes => some <$> Statement.update flags table filter changes
  | remove filter => some <$> Statement.delete table filter
  | drop => .ok (some (Statement.dropTable table))

/-- The columns of an insertion are those of the first row. -/
def columns (rows : List Row) : List String := (rows.head?.map Keyed.keys).getD []

/-- The names that occur in the statement, in order. -/
def names (table : String) : Operation → List String
  | find filter options =>
    table :: (filter.leaves.filterMap Leaf.field? ++ options.order.map Order.key)
  | findByIds filter options =>
    table :: (filter.arraysAsOneOf.leaves.filterMap Leaf.field? ++ options.order.map Order.key)
  | insert rows returning => table :: (columns rows ++ returning)
  | update filter changes =>
    table :: (Keyed.keys changes ++ filter.leaves.filterMap Leaf.field?)
  | remove filter => table :: filter.leaves.filterMap Leaf.field?
  | drop => [table]

/-- The values that are bound, in order. -/
def values (flags : Flags) : Operation → List Json
  | find filter options => Leaf.allValues filter.leaves ++ pageValues options.page
  | findByIds filter options =>
    Leaf.allValues filter.arraysAsOneOf.leaves ++ pageValues options.page
  | insert rows _ => rows.flatMap (rowValues flags (columns rows))
  | update filter changes =>
    (changes.map fun (_, v) => v.asCell flags) ++ Leaf.allValues filter.leaves
  | remove filter => Leaf.allValues filter.leaves
  | drop => []

def tokens (table : String) : Operation → List Token
  | find filter options => Statement.selectTokens table filter.leaves options
  | findByIds filter options => Statement.selectTokens table filter.arraysAsOneOf.leaves options
  | insert rows returning => Statement.insertTokens table (columns rows) rows.length returning
  | update filter changes => Statement.updateTokens table (Keyed.keys changes) filter.leaves
  | remove filter => Statement.deleteTokens table filter.leaves
  | drop => Statement.dropTokens table

theorem length_rowValues (flags : Flags) (columns : List String) (rows : List Row) :
    (rows.flatMap (rowValues flags columns)).length = rows.length * columns.length := by
  simp [List.length_flatMap, rowValues]

theorem passage_tokens (flags : Flags) (table : String) (op : Operation) :
    Passage (op.tokens table) 0 (op.values flags).length (op.names table) := by
  cases op with
  | find filter options => exact Statement.passage_selectTokens table filter.leaves options
  | findByIds filter options =>
      exact Statement.passage_selectTokens table filter.arraysAsOneOf.leaves options
  | insert rows returning =>
      rw [values, length_rowValues]
      exact Statement.passage_insertTokens table (columns rows) rows.length returning
  | update filter changes =>
      have h := Statement.passage_updateTokens table (Keyed.keys changes) filter.leaves
      simpa [tokens, values, names, Keyed.keys] using h
  | remove filter => exact Statement.passage_deleteTokens table filter.leaves
  | drop => exact Statement.passage_dropTokens table

theorem some_map_eq_ok {x : Except DbError Statement} {s : Statement}
    (h : (some <$> x : Except DbError (Option Statement)) = .ok (some s)) : x = .ok s := by
  cases x with
  | error e => cases h
  | ok s' => cases h; rfl

/-- A statement is the text of the operation's tokens, with the operation's values. -/
theorem statement?_eq {flags : Flags} {table : String} {op : Operation} {s : Statement}
    (h : op.statement? flags table = .ok (some s)) :
    s = ⟨text (op.tokens table), op.values flags⟩ := by
  cases op with
  | find filter options =>
      have hselect := some_map_eq_ok h
      rw [Statement.select_eq] at hselect
      exact (Filter.checked_eq_ok_iff.mp hselect).2
  | findByIds filter options =>
      have hselect := some_map_eq_ok h
      rw [Statement.selectByIds, Statement.select_eq] at hselect
      exact (Filter.checked_eq_ok_iff.mp hselect).2
  | insert rows returning =>
      cases rows with
      | nil => cases h
      | cons first rows =>
          by_cases hfirst : first = []
          · rw [statement?, Statement.insert, hfirst] at h
            cases h
          · rw [statement?, Statement.insert_eq flags table first rows returning hfirst] at h
            exact (Option.some.inj (Except.ok.inj h)).symm
  | update filter changes =>
      have hupdate := some_map_eq_ok h
      by_cases hchanges : changes = []
      · rw [Statement.update, hchanges] at hupdate
        cases hupdate
      · rw [Statement.update_eq flags table filter changes hchanges] at hupdate
        exact (Filter.checked_eq_ok_iff.mp hupdate).2
  | remove filter =>
      have hdelete := some_map_eq_ok h
      rw [Statement.delete_eq] at hdelete
      exact (Filter.checked_eq_ok_iff.mp hdelete).2
  | drop =>
      rw [statement?, Statement.dropTable_eq] at h
      exact (Option.some.inj (Except.ok.inj h)).symm

/-- The placeholders of a statement are numbered from 1 to the number of its parameters without a
gap, its identifiers are the operation's names, and its parameters the operation's values. -/
theorem lex_of_statement? {flags : Flags} {table : String} {op : Operation} {s : Statement}
    (h : op.statement? flags table = .ok (some s)) :
    ∃ ts, lex s.sql.toList = some ts ∧
      ts.filterMap Token.slot? = List.range' 1 s.params.length ∧
      ts.filterMap Token.name? = op.names table ∧
      s.params = op.values flags := by
  obtain rfl := statement?_eq h
  have hpassage := op.passage_tokens flags table
  exact ⟨op.tokens table, lex_text hpassage.separated, hpassage.slots, hpassage.names, rfl⟩

/-- An update with names that look like quotes, placeholders and conditions, and with a list. -/
def hostileUpdate : Operation :=
  update ⟨[("f\" = $1, \"g", .operator (.all
      [.path [.string "a", .nat 0] (.nat 1), .oneOf [], .compare .lt (.nat 2)]))]⟩
    [("c\"", .null), ("$9", .array [.bool true])]

/-- The list is bound as its text with the flag, and as the list without. -/
theorem lex_hostileUpdate :
    (∃ s, hostileUpdate.statement? {} "t\"; DROP TABLE \"u" = .ok (some s) ∧
      ∃ ts, lex s.sql.toList = some ts ∧ ts.filterMap Token.slot? = [1, 2, 3, 4, 5, 6] ∧
        ts.filterMap Token.name? =
          ["t\"; DROP TABLE \"u", "c\"", "$9", "f\" = $1, \"g", "f\" = $1, \"g"] ∧
        s.params = [.null, .array [.bool true], .string "a", .nat 0, .nat 1, .nat 2]) ∧
    ∃ s, hostileUpdate.statement? { arrayAsJson := true } "t" = .ok (some s) ∧
      s.params = [.null, .string "[true]", .string "a", .nat 0, .nat 1, .nat 2] := by
  have hplain : hostileUpdate.statement? {} "t\"; DROP TABLE \"u" = .ok (some _) := rfl
  have hflag : hostileUpdate.statement? { arrayAsJson := true } "t" = .ok (some _) := rfl
  have htext : (Json.array [.bool true]).text = "[true]" := by decide +kernel
  obtain ⟨-, -, -, -, hparams⟩ := lex_of_statement? hflag
  refine ⟨⟨_, hplain, lex_of_statement? hplain⟩, _, hflag, hparams.trans ?_⟩
  rw [← htext]
  rfl

end Operation

end PgCollections
