import PgCollections.Proofs.Filter.Shape
import PgCollections.Proofs.Sql.Statement

/-! # What a statement shows of its values

The outline of a statement is its text and the number of its parameters.  Operations are `Alike` if
they differ in nothing but values: those of a filter, of a limit or an offset, and the cells of rows
and changes.  The main statement is `Operation.outline_eq_of_alike`: alike operations have
statements of the same outline, or none, or the same error, so that no value has an influence on a
text.

Each clause is written from the shape of what it is written for: the restriction from the shape of
the leaf conditions (`Leaf.restriction_mapValues`), the page from which of its numbers are there. -/

namespace PgCollections

open Sql

/-- The text, and the number of the parameters. -/
def Statement.outline (s : Statement) : String × Nat := (s.sql, s.params.length)

/-! ### Restrictions -/

namespace Leaf

variable (f : Json → Json)

theorem tokens_mapValues (n : Nat) (l : Leaf) : (l.mapValues f).tokens n = l.tokens n := by
  cases l <;> simp [mapValues, tokens]

theorem numbered_mapValues (n : Nat) (ls : List Leaf) :
    numbered n (ls.map (mapValues f)) = numbered n ls := by
  induction ls generalizing n with
  | nil => rfl
  | cons l ls ih => simp [numbered, tokens_mapValues, values_mapValues, ih]

/-- The clause does not depend on the values. -/
theorem restriction_mapValues (n : Nat) (ls : List Leaf) :
    restriction n (ls.map (mapValues f)) = restriction n ls := by
  unfold restriction conjunction
  rw [numbered_mapValues, List.isEmpty_map]

end Leaf

namespace Filter.Alike

variable {filter filter' : Filter} (h : filter.Alike filter')

include h

theorem restriction_eq (n : Nat) :
    Leaf.restriction n filter.leaves = Leaf.restriction n filter'.leaves := by
  rw [← Leaf.restriction_mapValues Json.blank, h.leaves_eq, Leaf.restriction_mapValues]

theorem length_allValues_eq :
    (Leaf.allValues filter.leaves).length = (Leaf.allValues filter'.leaves).length := by
  have hvalues := congrArg Leaf.allValues h.leaves_eq
  rw [Leaf.allValues_mapValues, Leaf.allValues_mapValues] at hvalues
  simpa using congrArg List.length hvalues

/-- A statement for alike filters has the same outline, or cannot be built for the same reason. -/
theorem outline_checked {s s' : Statement} (hs : s.outline = s'.outline) :
    (filter.checked s).map Statement.outline = (filter'.checked s').map Statement.outline := by
  unfold checked
  rw [h.fault?_eq]
  cases filter'.fault? with
  | none => exact congrArg Except.ok hs
  | some e => rfl

end Filter.Alike

/-! ### Pages -/

/-- The same order; the limits are both positive or both of no effect, and so are the offsets. -/
structure FindOptions.Alike (options options' : FindOptions) : Prop where
  order : options.order = options'.order
  limit : options.limit.any (0 < ·) = options'.limit.any (0 < ·)
  offset : options.offset.any (0 < ·) = options'.offset.any (0 < ·)

namespace FindOptions.Alike

variable {options options' : FindOptions} (h : options.Alike options')

include h

theorem page_eq :
    options.page.map (·.2.isSome) = options'.page.map (·.2.isSome) := by
  obtain ⟨limit, offset, order⟩ := options
  obtain ⟨limit', offset', order'⟩ := options'
  obtain ⟨-, hlimit, hoffset⟩ := h
  rcases limit with _ | _ | limit <;> rcases limit' with _ | _ | limit' <;>
    rcases offset with _ | _ | offset <;> rcases offset' with _ | _ | offset' <;>
    simp_all [page]

omit h in
/-- The tokens of a page depend on which of its numbers are there, and so does their count. -/
theorem page_congr {page page' : Option (Nat × Option Nat)}
    (hpage : page.map (·.2.isSome) = page'.map (·.2.isSome)) (n : Nat) :
    pageTokens n page = pageTokens n page' ∧
      (pageValues page).length = (pageValues page').length := by
  rcases page with _ | ⟨limit, _ | offset⟩ <;> rcases page' with _ | ⟨limit', _ | offset'⟩ <;>
    simp_all [pageTokens, pageValues]

theorem pageTokens_eq (n : Nat) : pageTokens n options.page = pageTokens n options'.page :=
  (page_congr h.page_eq n).1

theorem length_pageValues_eq :
    (pageValues options.page).length = (pageValues options'.page).length :=
  (page_congr h.page_eq 0).2

end FindOptions.Alike

/-! ### Statements -/

/-- A map under the same names is empty if the other one is. -/
theorem Keyed.eq_nil_iff_of_keys_eq {α β : Type} {entries : Keyed α} {entries' : Keyed β}
    (h : keys entries = keys entries') : entries = [] ↔ entries' = [] := by
  rw [← List.map_eq_nil_iff (f := Prod.fst), ← List.map_eq_nil_iff (f := Prod.fst) (l := entries')]
  exact Eq.congr_left h

namespace Statement

variable {filter filter' : Filter} (h : filter.Alike filter') (table : String)

include h

theorem outline_select {options options' : FindOptions} (ho : options.Alike options') :
    (select table filter options).map outline = (select table filter' options').map outline := by
  have htokens : selectTokens table filter.leaves options =
      selectTokens table filter'.leaves options' := by
    unfold selectTokens
    rw [h.restriction_eq, ho.order, h.length_allValues_eq, ho.pageTokens_eq]
  rw [select_eq, select_eq]
  apply h.outline_checked
  simp [outline, htokens, h.length_allValues_eq, ho.length_pageValues_eq]

theorem outline_update (flags flags' : Flags) {changes changes' : Row}
    (hkeys : Keyed.keys changes = Keyed.keys changes') :
    (update flags table filter changes).map outline =
      (update flags' table filter' changes').map outline := by
  have hnil := Keyed.eq_nil_iff_of_keys_eq hkeys
  by_cases hchanges : changes = []
  · rw [hchanges, hnil.mp hchanges]
    rfl
  · have hlength : changes.length = changes'.length := by
      simpa [Keyed.keys] using congrArg List.length hkeys
    rw [update_eq flags table filter changes hchanges,
      update_eq flags' table filter' changes' (mt hnil.mpr hchanges)]
    apply h.outline_checked
    unfold updateTokens
    simp [outline, hkeys, h.restriction_eq, h.length_allValues_eq, hlength]

theorem outline_delete :
    (delete table filter).map outline = (delete table filter').map outline := by
  rw [delete_eq, delete_eq]
  apply h.outline_checked
  unfold deleteTokens
  simp [outline, h.restriction_eq, h.length_allValues_eq]

omit h

theorem outline_insert (flags flags' : Flags) {rows rows' : List Row}
    (hlength : rows.length = rows'.length)
    (hkeys : rows.head?.map Keyed.keys = rows'.head?.map Keyed.keys) (returning : List String) :
    (insert flags table rows returning).map (Option.map outline) =
      (insert flags' table rows' returning).map (Option.map outline) := by
  cases rows with
  | nil =>
      obtain rfl : rows' = [] := by simpa [eq_comm] using hlength
      rfl
  | cons first rows => cases rows' with
    | nil => cases hlength
    | cons first' rows' =>
        have hfirst : Keyed.keys first = Keyed.keys first' := by simpa using hkeys
        have hnil := Keyed.eq_nil_iff_of_keys_eq hfirst
        by_cases hempty : first = []
        · rw [hempty, hnil.mp hempty]
          rfl
        · have houtline : outline ⟨text (insertTokens table (Keyed.keys first) (rows.length + 1)
                returning), (first :: rows).flatMap (rowValues flags (Keyed.keys first))⟩ =
              outline ⟨text (insertTokens table (Keyed.keys first') (rows'.length + 1) returning),
                (first' :: rows').flatMap (rowValues flags' (Keyed.keys first'))⟩ := by
            have hrows : rows.length = rows'.length := by simpa using hlength
            simp only [outline, Operation.length_rowValues, List.length_cons, hfirst, hrows]
          rw [insert_eq flags table first rows returning hempty,
            insert_eq flags' table first' rows' returning (mt hnil.mpr hempty)]
          exact congrArg (fun o => Except.ok (some o)) houtline

end Statement

namespace Operation

/-- The operations differ in nothing but values. -/
inductive Alike : Operation → Operation → Prop
  | find {filter filter' : Filter} {options options' : FindOptions} :
    filter.Alike filter' → options.Alike options' →
      Alike (.find filter options) (.find filter' options')
  | insert {rows rows' : List Row} (returning : List String) : rows.length = rows'.length →
    rows.head?.map Keyed.keys = rows'.head?.map Keyed.keys →
      Alike (.insert rows returning) (.insert rows' returning)
  | update {filter filter' : Filter} {changes changes' : Row} :
    filter.Alike filter' → Keyed.keys changes = Keyed.keys changes' →
      Alike (.update filter changes) (.update filter' changes')
  | remove {filter filter' : Filter} : filter.Alike filter' →
      Alike (.remove filter) (.remove filter')

theorem map_outline_some (x : Except DbError Statement) :
    (some <$> x : Except DbError (Option Statement)).map (Option.map Statement.outline) =
      some <$> x.map Statement.outline := by
  cases x <;> rfl

/-- Alike operations have statements with the same text and as many parameters, or neither has a
statement, or both fail with the same error. -/
theorem outline_eq_of_alike {op op' : Operation} (h : op.Alike op') (flags flags' : Flags)
    (table : String) :
    (op.statement? flags table).map (Option.map Statement.outline) =
      (op'.statement? flags' table).map (Option.map Statement.outline) := by
  cases h with
  | find hfilter hoptions =>
      rw [statement?, statement?, map_outline_some, map_outline_some,
        Statement.outline_select hfilter table hoptions]
  | insert returning hlength hkeys =>
      exact Statement.outline_insert table flags flags' hlength hkeys returning
  | update hfilter hkeys =>
      rw [statement?, statement?, map_outline_some, map_outline_some,
        Statement.outline_update hfilter table flags flags' hkeys]
  | remove hfilter =>
      rw [statement?, statement?, map_outline_some, map_outline_some,
        Statement.outline_delete hfilter table]

/-- An update with values that look like quotes, placeholders and conditions. -/
def hostileValues : Operation :=
  update ⟨[("f", .value (.string "' OR \"f\" = $1")), ("g", .operator (.all
      [.path [.nat 0, .string "$9"] .null, .oneOf [.array [.string "); --"], .bool true]]))]⟩
    [("c", .array [.string "\" = $2"])]

/-- The same update with other values. -/
def plainValues : Operation :=
  update ⟨[("f", .operator (.compare .eq .null)), ("g", .operator (.all
      [.path [.null, .null] (.object []), .oneOf [.nat 1, .nat 2]]))]⟩ [("c", .null)]

theorem outline_hostileValues :
    hostileValues.Alike plainValues ∧
      (hostileValues.statement? ⟨true, false⟩ "t").map (Option.map Statement.outline) =
        (plainValues.statement? {} "t").map (Option.map Statement.outline) :=
  have h : hostileValues.Alike plainValues := .update rfl rfl
  ⟨h, outline_eq_of_alike h ⟨true, false⟩ {} "t"⟩

end Operation

end PgCollections
