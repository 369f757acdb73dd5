import PgCollections.Database
import PgCollections.Proofs.Sql.Keyword
import PgCollections.Proofs.Sql.Statement

/-! # Restricted statements

A statement is `Restricted` if its text has a `WHERE` among its tokens; names cannot contribute one.
Selections, updates and deletions are restricted exactly if their filter has an entry
(`Statement.restricted_select_iff` and its siblings): no operator has an empty text.  A filter whose
clause cannot be built stops the operation before anything is executed. -/

namespace PgCollections

open Sql

namespace Sql

/-- The text restricts what it applies to. -/
def Restricted (sql : String) : Prop := ∃ ts, lex sql.toList = some ts ∧ .keyword .WHERE ∈ ts

theorem restricted_text_iff {ts : List Token} (h : Separated ts) :
    Restricted (text ts) ↔ .keyword .WHERE ∈ ts := by
  simp [Restricted, lex_text h]

end Sql

namespace Filter

/-- The clause of a filter with entries starts with the keyword, and its predicate is not empty. -/
theorem runFrom_whereClause_of_ne_nil {filter : Filter} (hne : filter.entries ≠ []) (b : Bindings) :
    (∃ e bound, filter.whereClause.runFrom b = (.error e, bound)) ∨
      ∃ predicate bound, predicate ≠ "" ∧ filter.predicate.runFrom b = (.ok predicate, bound) ∧
        filter.whereClause.runFrom b = (.ok (" WHERE " ++ predicate), bound) := by
  rw [runFrom_whereClause, runFrom_predicate, Parts.compiled, checked, ← fault?, ← leaves]
  cases hfault : filter.fault? with
  | some e => exact .inl ⟨_, _, rfl⟩
  | none =>
      have hleaves : filter.leaves ≠ [] := (leaves_eq_nil_iff hfault).not.mpr hne
      refine .inr ⟨_, _, ?_, rfl, ?_⟩
      · exact (text_eq_empty_iff _).not.mpr ((Leaf.conjunction_eq_nil_iff _ _).not.mpr hleaves)
      · rw [Leaf.restriction, if_neg (by simpa using hleaves), text_append]
        rfl

theorem checked_error {α β : Type} {filter : Filter} {a : α} {e : DbError}
    (h : filter.checked a = .error e) (a' : β) : filter.checked a' = .error e := by
  unfold checked at h ⊢
  cases hfault : filter.fault? with
  | none => rw [hfault] at h; cases h
  | some fault => rw [hfault] at h; exact congrArg Except.error (Except.error.inj h)

end Filter

namespace Statement

variable {table : String} {filter : Filter} {s : Statement}

theorem restricted_select_iff {options : FindOptions} (h : select table filter options = .ok s) :
    Restricted s.sql ↔ filter.entries ≠ [] := by
  rw [select_eq] at h
  obtain ⟨hfault, rfl⟩ := Filter.checked_eq_ok_iff.mp h
  have horder : .keyword .WHERE ∉ Order.clauseTokens options.order := fun hmem => by
    simpa using Order.keyword_mem_clauseTokens hmem
  have hpage : .keyword .WHERE ∉ pageTokens (Leaf.allValues filter.leaves).length options.page :=
    fun hmem => by simpa using keyword_mem_pageTokens hmem
  rw [restricted_text_iff (passage_selectTokens table filter.leaves options).separated, ne_eq,
    ← Filter.leaves_eq_nil_iff hfault]
  simp [selectTokens, Leaf.where_mem_restriction_iff, horder, hpage]

theorem restricted_update_iff {flags : Flags} {changes : Row}
    (h : update flags table filter changes = .ok s) : Restricted s.sql ↔ filter.entries ≠ [] := by
  have hchanges : changes ≠ [] := by
    rintro rfl
    cases h
  rw [update_eq flags table filter changes hchanges] at h
  obtain ⟨hfault, rfl⟩ := Filter.checked_eq_ok_iff.mp h
  rw [restricted_text_iff (passage_updateTokens table _ filter.leaves).separated, ne_eq,
    ← Filter.leaves_eq_nil_iff hfault]
  simp [updateTokens, Leaf.where_mem_restriction_iff, keyword_not_mem_assignmentTokens]

theorem restricted_delete_iff (h : delete table filter = .ok s) :
    Restricted s.sql ↔ filter.entries ≠ [] := by
  rw [delete_eq] at h
  obtain ⟨hfault, rfl⟩ := Filter.checked_eq_ok_iff.mp h
  rw [restricted_text_iff (passage_deleteTokens table filter.leaves).separated, ne_eq,
    ← Filter.leaves_eq_nil_iff hfault]
  simp [deleteTokens, Leaf.where_mem_restriction_iff]

end Statement

/-! ### Filters that cannot be compiled -/

section faults

variable {filter : Filter} {b bound : Bindings} {e : DbError}
  (h : filter.whereClause.runFrom b = (.error e, bound))

include h

theorem Filter.checked_of_whereClause {α : Type} (a : α) : filter.checked a = .error e := by
  rw [runFrom_whereClause] at h
  exact checked_error (Prod.mk.inj h).1 a

theorem Statement.select_of_whereClause (table : String) (options : FindOptions) :
    select table filter options = .error e := by
  rw [select_eq, Filter.checked_of_whereClause h]

theorem Database.remove_of_whereClause {σ : Type} (db : Database σ) (table : String)
    (world : World σ) : (db.remove table filter).run world = (.error e, world) := by
  have hdelete : Statement.delete table filter = .error e := by
    rw [Statement.delete_eq, Filter.checked_of_whereClause h]
  rw [remove, hdelete]
  rfl

theorem Database.update_of_whereClause {σ : Type} (db : Database σ) (table : String)
    (changes : Row) (world : World σ) :
    ∃ e', (db.update table filter changes).run world = (.error e', world) := by
  have hupdate : ∃ e', Statement.update db.flags table filter changes = .error e' := by
    by_cases hchanges : changes = []
    · exact ⟨_, by rw [Statement.update, hchanges]; rfl⟩
    · exact ⟨e, by rw [Statement.update_eq _ _ _ _ hchanges, Filter.checked_of_whereClause h]⟩
  obtain ⟨e', hupdate⟩ := hupdate
  refine ⟨e', ?_⟩
  rw [update, hupdate]
  rfl

end faults

end PgCollections
