import PgCollections.Proofs.Sql.Predicate
import PgCollections.Sql.Rows

/-! # Clauses of statements

Every clause of a statement as a list of tokens.  A clause is a `Passage`: it can be read back, its
placeholders follow those before it without a gap, and its identifiers are the given names in
order.  Passages can be put one after the other (`Passage.append`), so that what holds of the
clauses holds of the statements. -/

namespace PgCollections

open Sql

/-- A part of a statement that holds the placeholders after number `n` up to number `m` in order,
and the given names in order. -/
structure Passage (ts : List Token) (n m : Nat) (names : List String) : Prop where
  separated : Separated ts
  le : n ≤ m
  slots : ts.filterMap Token.slot? = slotsAfter n (m - n)
  names : ts.filterMap Token.name? = names

namespace Passage

variable {ts us sep : List Token} {n m p : Nat} {xs ys : List String}

theorem nil (n : Nat) : Passage [] n n [] := ⟨List.isChain_nil, le_rfl, by simp, rfl⟩

theorem of_count {count : Nat} (h : Separated ts)
    (hslots : ts.filterMap Token.slot? = slotsAfter n count)
    (hnames : ts.filterMap Token.name? = xs) : Passage ts n (n + count) xs :=
  ⟨h, Nat.le_add_right n count, by rw [Nat.add_sub_cancel_left, hslots], hnames⟩

/-- Tokens without placeholders. -/
theorem of_separated (h : Separated ts) (hslots : ts.filterMap Token.slot? = [])
    (hnames : ts.filterMap Token.name? = xs) (n : Nat) : Passage ts n n xs :=
  ⟨h, le_rfl, by simp [hslots], hnames⟩

theorem append (h : Passage ts n m xs) (h' : Passage us m p ys)
    (hloose : (∀ t ∈ ts.getLast?, t.isLoose = true) ∨ ∀ u ∈ us.head?, u.isLoose = true) :
    Passage (ts ++ us) n p (xs ++ ys) := by
  refine ⟨h.separated.append h'.separated hloose, h.le.trans h'.le, ?_, ?_⟩
  · have hm : n + (m - n) = m := by have := h.le; omega
    have hp : p - n = (m - n) + (p - m) := by have := h.le; have := h'.le; omega
    rw [List.filterMap_append, h.slots, h'.slots, hp, slotsAfter_add, hm]
  · rw [List.filterMap_append, h.names, h'.names]

/-- Passages can be joined by anything that starts and ends loosely. -/
theorem intercalate_cons {part : List Token} {parts : List (List Token)} (hsep : Separator sep)
    (hslots : sep.filterMap Token.slot? = []) (hnames : sep.filterMap Token.name? = [])
    (h : Passage part n m xs) (h' : Passage (sep.intercalate parts) m p ys) :
    Passage (sep.intercalate (part :: parts)) n p (xs ++ ys) := by
  cases parts with
  | nil => simpa [List.intercalate] using h.append h' (.inr (by simp [List.intercalate]))
  | cons next parts =>
      have hrest : Passage (sep ++ sep.intercalate (next :: parts)) m p ys := by
        simpa using (of_separated hsep.separated hslots hnames m).append h' (.inl hsep.last)
      rw [intercalate_cons_cons]
      refine h.append hrest (.inr ?_)
      rw [List.head?_append_of_ne_nil _ hsep.ne_nil]
      exact hsep.head

end Passage

theorem separator_comma : Separator [.comma] :=
  ⟨List.isChain_singleton _, by simp, by simp [Token.isLoose], by simp [Token.isLoose]⟩

theorem separator_andTokens : Separator Leaf.andTokens :=
  ⟨by simp [Leaf.andTokens], by simp [Leaf.andTokens], by simp [Leaf.andTokens, Token.isLoose],
    by simp [Leaf.andTokens, Token.isLoose]⟩

/-! ### Lists of names and of placeholders -/

theorem passage_name (n : Nat) (name : String) : Passage [.name name] n n [name] :=
  Passage.of_separated (List.isChain_singleton _) rfl rfl n

theorem passage_slot (n : Nat) : Passage [.slot (n + 1)] n (n + 1) [] :=
  Passage.of_count (List.isChain_singleton _) rfl rfl

theorem passage_names (n : Nat) (names : List String) :
    Passage (commaSeparated (names.map .name)) n n names := by
  induction names with
  | nil => exact Passage.nil n
  | cons name names ih =>
      exact Passage.intercalate_cons separator_comma rfl rfl (passage_name n name) ih

theorem passage_slots (n count : Nat) :
    Passage (commaSeparated (Leaf.slots n count)) n (n + count) [] := by
  induction count generalizing n with
  | zero => exact Passage.nil n
  | succ count ih =>
      have ih := ih (n + 1)
      rw [Nat.add_assoc, Nat.add_comm 1] at ih
      exact Passage.intercalate_cons separator_comma rfl rfl (passage_slot n) ih

/-! ### Restrictions -/

namespace Leaf

/-- The steps of a path can stand behind any token that does not absorb their operators. -/
theorem separated_steps {t : Token} {rest : List Token} (ht : t.absorbs '-' = false)
    (hrest : ∀ u : Token, u.absorbs '-' = false → Separated (u :: rest)) (ns : List Nat) :
    Separated (t :: ((ns.map Token.slot).flatMap ([.arrow, ·]) ++ rest)) := by
  induction ns generalizing t with
  | nil => exact hrest t ht
  | cons n ns ih =>
      have hslot : Apart .arrow (.slot n) := rfl
      exact List.isChain_cons_cons.mpr ⟨ht, List.isChain_cons_cons.mpr ⟨hslot, ih rfl⟩⟩

theorem slots_steps (ns : List Nat) :
    ((ns.map Token.slot).flatMap ([.arrow, ·])).filterMap Token.slot? = ns := by
  induction ns with
  | nil => rfl
  | cons n ns ih => exact congrArg (n :: ·) ih

theorem names_steps (ns : List Nat) :
    ((ns.map Token.slot).flatMap ([.arrow, ·])).filterMap Token.name? = [] := by
  induction ns with
  | nil => rfl
  | cons n ns ih => exact ih

theorem passage_tokens (n : Nat) (l : Leaf) :
    Passage (l.tokens n) n (n + l.values.length) l.field?.toList := by
  cases l with
  | compare field c v => exact Passage.of_count (by simp [tokens]) rfl rfl
  | any field v => exact Passage.of_count (by simp [tokens]) rfl rfl
  | never => exact Passage.of_separated (List.isChain_singleton _) rfl rfl n
  | oneOf field v vs =>
      have hopen : Passage [.name field, .blank, .keyword .IN, .blank, .opening] n n [field] :=
        Passage.of_separated (by simp) rfl rfl n
      have hlist := hopen.append (passage_slots n (v :: vs).length) (.inl (by simp [Token.isLoose]))
      have hclose : Passage [.closing] (n + (v :: vs).length) (n + (v :: vs).length) [] :=
        Passage.of_separated (List.isChain_singleton _) rfl rfl _
      simpa [tokens, values, field?] using hlist.append hclose (.inr (by simp [Token.isLoose]))
  | path field inner last v =>
      have hlast : slotsAfter n (inner ++ [last, v]).length =
          slotsAfter n inner.length ++ [n + inner.length + 1, n + inner.length + 2] := by
        rw [List.length_append, slotsAfter_add]
        rfl
      refine Passage.of_count (separated_steps rfl (fun u hu => ?_) _) ?_ ?_
      · exact List.isChain_cons_cons.mpr ⟨hu, List.isChain_cons_cons.mpr ⟨rfl, by simp⟩⟩
      · rw [values, hlast, tokens, slots, List.filterMap_cons, List.filterMap_append, slots_steps]
        rfl
      · rw [tokens, slots, List.filterMap_cons, List.filterMap_append, names_steps]
        rfl

theorem passage_conjunction (n : Nat) (ls : List Leaf) :
    Passage (conjunction n ls) n (n + (allValues ls).length) (ls.filterMap field?) := by
  induction ls generalizing n with
  | nil => exact Passage.nil n
  | cons l ls ih =>
      have ih := ih (n + l.values.length)
      rw [Nat.add_assoc, ← List.length_append, ← allValues_cons] at ih
      have hnames : (l :: ls).filterMap field? = l.field?.toList ++ ls.filterMap field? := by
        cases h : l.field? <;> simp [h]
      rw [hnames]
      exact Passage.intercalate_cons separator_andTokens rfl rfl (passage_tokens n l) ih

theorem isLoose_head_restriction (n : Nat) (ls : List Leaf) :
    ∀ t ∈ (restriction n ls).head?, t.isLoose = true := by
  cases ls <;> simp [restriction, Token.isLoose]

theorem passage_restriction (n : Nat) (ls : List Leaf) :
    Passage (restriction n ls) n (n + (allValues ls).length) (ls.filterMap field?) := by
  cases ls with
  | nil => exact Passage.nil n
  | cons l ls =>
      have hwhere : Passage [.blank, .keyword .WHERE, .blank] n n [] :=
        Passage.of_separated (by simp) rfl rfl n
      exact hwhere.append (passage_conjunction n (l :: ls)) (.inl (by simp [Token.isLoose]))

end Leaf

/-! ### Sort terms -/

def Direction.token : Direction → Token
  | asc => .keyword .ASC
  | desc => .keyword .DESC

namespace Order

def tokens (order : Order) : List Token := [.name order.key, .blank, order.dir.token]

/-- What stands between sort terms. -/
def separatorTokens : List Token := [.comma, .blank]

/-- The clause that sorts by the terms, or nothing. -/
def clauseTokens (orders : List Order) : List Token :=
  if orders.isEmpty then []
  else [.blank, .keyword .ORDER, .blank, .keyword .BY, .blank] ++
    separatorTokens.intercalate (orders.map tokens)

theorem text_clauseTokens (orders : List Order) : text (clauseTokens orders) = clause orders := by
  have hterm : text ∘ tokens = term := by
    funext ⟨key, dir⟩
    cases dir <;> simp [← String.toList_inj, tokens, term, Token.text, Keyword.text,
      Direction.token, Direction.keyword]
  unfold clause clauseTokens
  split
  · rfl
  · rw [text_append, text_intercalate, List.map_map, hterm]
    rfl

theorem passage_clauseTokens (n : Nat) (orders : List Order) :
    Passage (clauseTokens orders) n n (orders.map key) := by
  have hsep : Separator separatorTokens :=
    ⟨by simp [separatorTokens], by simp [separatorTokens], by simp [separatorTokens, Token.isLoose],
      by simp [separatorTokens, Token.isLoose]⟩
  have hterm : ∀ order : Order, Passage order.tokens n n [order.key] := by
    rintro ⟨key, dir⟩
    cases dir <;> exact Passage.of_separated (by simp [tokens]) rfl rfl n
  have hterms : Passage (separatorTokens.intercalate (orders.map tokens)) n n (orders.map key) := by
    induction orders with
    | nil => exact Passage.nil n
    | cons order orders ih => exact Passage.intercalate_cons hsep rfl rfl (hterm order) ih
  unfold clauseTokens
  split
  · have hnil : orders = [] := List.isEmpty_iff.mp ‹_›
    rw [hnil]
    exact Passage.nil n
  · have hby : Passage [.blank, .keyword .ORDER, .blank, .keyword .BY, .blank] n n [] :=
      Passage.of_separated (by simp) rfl rfl n
    exact hby.append hterms (.inl (by simp [Token.isLoose]))

theorem isLoose_head_clauseTokens (orders : List Order) :
    ∀ t ∈ (clauseTokens orders).head?, t.isLoose = true := by
  cases orders <;> simp [clauseTokens, Token.isLoose]

end Order

/-! ### Pages -/

namespace FindOptions

/-- The limit and the offset that take effect: an offset needs a limit, and zero is none. -/
def page (options : FindOptions) : Option (Nat × Option Nat) :=
  match options.limit with
  | some (limit + 1) =>
    match options.offset with
    | some (offset + 1) => some (limit + 1, some (offset + 1))
    | _ => some (limit + 1, none)
  | _ => none

end FindOptions

/-- The clauses of a page behind `n` placeholders. -/
def pageTokens (n : Nat) : Option (Nat × Option Nat) → List Token
  | none => []
  | some (_, none) => [.blank, .keyword .LIMIT, .blank, .slot (n + 1)]
  | some (_, some _) =>
    [.blank, .keyword .LIMIT, .blank, .slot (n + 1), .blank, .keyword .OFFSET, .blank,
      .slot (n + 2)]

def pageValues : Option (Nat × Option Nat) → List Json
  | none => []
  | some (limit, none) => [.nat limit]
  | some (limit, some offset) => [.nat limit, .nat offset]

theorem runFrom_countClause (keyword : String) (n : Nat) (b : Bindings) :
    (countClause keyword (some (n + 1))).runFrom b =
      (.ok (" " ++ keyword ++ " " ++ placeholder (b.index + 1)), b.add (.nat (n + 1))) := rfl

theorem runFrom_pageClauses (options : FindOptions) (b : Bindings) :
    options.pageClauses.runFrom b =
      (.ok (text (pageTokens b.index options.page)), b.addAll (pageValues options.page)) := by
  obtain ⟨limit, offset, order⟩ := options
  rcases limit with _ | _ | limit
  · simp [FindOptions.pageClauses, FindOptions.page, countClause, pageTokens, pageValues]
  · simp [FindOptions.pageClauses, FindOptions.page, countClause, pageTokens, pageValues]
  · rw [FindOptions.pageClauses, Building.runFrom_seq_ok _ (runFrom_countClause "LIMIT" limit b)]
    have hlimit : " " ++ "LIMIT" ++ " " ++ placeholder (b.index + 1) =
        text (pageTokens b.index (some (limit + 1, none))) := by
      simp [← String.toList_inj, pageTokens, Token.text, Keyword.text]
    have hne : (text (pageTokens b.index (some (limit + 1, none)))).isEmpty = false := by
      rw [Bool.eq_false_iff, ne_eq, String.isEmpty_iff, text_eq_empty_iff]
      exact List.cons_ne_nil _ _
    rw [hlimit]
    simp only [hne, Bool.false_eq_true, if_false]
    rcases offset with _ | _ | offset
    · simp [FindOptions.page, countClause, pageValues, Bindings.add_eq_addAll]
    · simp [FindOptions.page, countClause, pageValues, Bindings.add_eq_addAll]
    · rw [Building.runFrom_seq_ok _ (runFrom_countClause "OFFSET" offset _)]
      simp [← String.toList_inj, FindOptions.page, pageTokens, pageValues, Token.text,
        Keyword.text, Bindings.add_eq_addAll]

theorem passage_pageTokens (n : Nat) (page : Option (Nat × Option Nat)) :
    Passage (pageTokens n page) n (n + (pageValues page).length) [] := by
  rcases page with _ | ⟨limit, _ | offset⟩
  · exact Passage.nil n
  · exact Passage.of_count (by simp [pageTokens]) rfl rfl
  · exact Passage.of_count (by simp [pageTokens]) rfl rfl

theorem isLoose_head_pageTokens (n : Nat) (page : Option (Nat × Option Nat)) :
    ∀ t ∈ (pageTokens n page).head?, t.isLoose = true := by
  rcases page with _ | ⟨limit, _ | offset⟩ <;> simp [pageTokens, Token.isLoose]

/-! ### Rows and assignments -/

namespace Json

/-- With the flag a list is written as its JSON text, and without the flag as it is. -/
theorem asCell_array (flags : Flags) (items : List Json) :
    (array items).asCell flags =
      if flags.arrayAsJson then .string (array items).text else .array items :=
  rfl

/-- What is no list is written as it is. -/
theorem asCell_of_ne_array (flags : Flags) {v : Json} (h : ∀ items, v ≠ .array items) :
    v.asCell flags = v := by
  cases v with
  | array items => exact absurd rfl (h items)
  | _ => rfl

theorem asCell_of_not {flags : Flags} (h : flags.arrayAsJson = false) (v : Json) :
    v.asCell flags = v := by
  cases v with
  | array items => rw [asCell_array, h, if_neg Bool.false_ne_true]
  | _ => rfl

end Json

/-- A parenthesised list of `count` placeholders. -/
def tupleTokens (n count : Nat) : List Token :=
  [.opening] ++ commaSeparated (Leaf.slots n count) ++ [.closing]

/-- Several of them, numbered through. -/
def tuplesTokens (n count : Nat) : Nat → List (List Token)
  | 0 => []
  | rows + 1 => tupleTokens n count :: tuplesTokens (n + count) count rows

/-- What is bound for a row under the given columns. -/
def rowValues (flags : Flags) (columns : List String) (row : Row) : List Json :=
  columns.map fun column => ((Keyed.get? row column).getD .null).asCell flags

theorem text_tupleTokens (n count : Nat) :
    text (tupleTokens n count) = tuple ((slotsAfter n count).map placeholder) := by
  rw [tupleTokens, text_append, text_append, Leaf.text_commaSeparated_slots]
  rfl

theorem runFrom_bindRow (flags : Flags) (columns : List String) (row : Row) (b : Bindings) :
    (Statement.bindRow flags columns row).runFrom b =
      (.ok (text (tupleTokens b.index columns.length)),
        b.addAll (rowValues flags columns row)) := by
  rw [Statement.bindRow, Building.runFrom_seq_ok _ (Building.runFrom_bindAll b _),
    List.length_map, text_tupleTokens]
  rfl

theorem runFrom_mapM_bindRow (flags : Flags) (columns : List String) (rows : List Row)
    (b : Bindings) :
    (rows.mapM (Statement.bindRow flags columns)).runFrom b =
      (.ok ((tuplesTokens b.index columns.length rows.length).map text),
        b.addAll (rows.flatMap (rowValues flags columns))) := by
  induction rows generalizing b with
  | nil => simp [tuplesTokens]
  | cons row rows ih =>
      rw [List.mapM_cons, Building.runFrom_seq_ok _ (runFrom_bindRow flags columns row b),
        Building.runFrom_seq_ok _ (ih _)]
      simp [tuplesTokens, rowValues]

theorem passage_tupleTokens (n count : Nat) :
    Passage (tupleTokens n count) n (n + count) [] := by
  have hopen : Passage [.opening] n n [] :=
    Passage.of_separated (List.isChain_singleton _) rfl rfl n
  have hclose : Passage [.closing] (n + count) (n + count) [] :=
    Passage.of_separated (List.isChain_singleton _) rfl rfl _
  exact (hopen.append (passage_slots n count) (.inl (by simp [Token.isLoose]))).append hclose
    (.inr (by simp [Token.isLoose]))

theorem passage_tuplesTokens (n count rows : Nat) :
    Passage ([.comma].intercalate (tuplesTokens n count rows)) n (n + rows * count) [] := by
  induction rows generalizing n with
  | zero => simpa [tuplesTokens] using Passage.nil n
  | succ rows ih =>
      have ih := ih (n + count)
      have e : n + count + rows * count = n + (rows + 1) * count := by
        rw [Nat.succ_mul]; omega
      rw [e] at ih
      exact Passage.intercalate_cons separator_comma rfl rfl (passage_tupleTokens n count) ih

/-- The assignment of a row of placeholders to a row of columns. -/
def rowAssignmentTokens (n : Nat) (columns : List String) : List Token :=
  [.opening] ++ commaSeparated (columns.map .name) ++ [.closing, .blank, .comparison .eq, .blank] ++
    tupleTokens n columns.length

/-- The assignments to columns behind `n` placeholders: a single column has a form of its own. -/
def assignmentTokens (n : Nat) : List String → List Token
  | [column] => [.name column, .blank, .comparison .eq, .blank, .slot (n + 1)]
  | columns => rowAssignmentTokens n columns

theorem passage_rowAssignmentTokens (n : Nat) (columns : List String) :
    Passage (rowAssignmentTokens n columns) n (n + columns.length) columns := by
  have hopen : Passage [.opening] n n [] :=
    Passage.of_separated (List.isChain_singleton _) rfl rfl n
  have heq : Passage [.closing, .blank, .comparison .eq, .blank] n n [] :=
    Passage.of_separated (by simp) rfl rfl n
  have hcolumns := (hopen.append (passage_names n columns) (.inl (by simp [Token.isLoose]))).append
    heq (.inr (by simp [Token.isLoose]))
  have h := hcolumns.append (passage_tupleTokens n columns.length)
    (.inr (by simp [tupleTokens, Token.isLoose]))
  simpa [rowAssignmentTokens] using h

theorem passage_assignmentTokens (n : Nat) (columns : List String) :
    Passage (assignmentTokens n columns) n (n + columns.length) columns := by
  rcases columns with _ | ⟨column, _ | ⟨next, columns⟩⟩
  · exact passage_rowAssignmentTokens n []
  · exact Passage.of_count (by simp [assignmentTokens]) rfl rfl
  · exact passage_rowAssignmentTokens n (column :: next :: columns)

theorem text_names (names : List String) :
    text (commaSeparated (names.map .name)) = quoteIdentifiers names := by
  rw [text_commaSeparated, List.map_map]
  rfl

theorem text_rowAssignmentTokens (n : Nat) (columns : List String) :
    text (rowAssignmentTokens n columns) =
      "(" ++ quoteIdentifiers columns ++ ") = " ++
        tuple ((slotsAfter n columns.length).map placeholder) := by
  rw [rowAssignmentTokens, text_append, text_append, text_append, text_names, text_tupleTokens]
  rfl

theorem runFrom_setClause (flags : Flags) (changes : Row) (b : Bindings) :
    (Statement.setClause flags changes).runFrom b =
      (.ok (text (assignmentTokens b.index (Keyed.keys changes))),
        b.addAll (changes.map fun (_, v) => v.asCell flags)) := by
  rw [Statement.setClause, Building.runFrom_seq_ok _ (Building.runFrom_bindAll b _)]
  rcases changes with _ | ⟨⟨column, v⟩, _ | ⟨⟨next, w⟩, changes⟩⟩
  · rfl
  · simp [← String.toList_inj, Keyed.keys, assignmentTokens, Token.text, Comparison.symbol]
  · simp only [Keyed.keys, List.map_cons, List.length_cons, List.length_map, slotsAfter_succ,
      Building.runFrom_pure, assignmentTokens, text_rowAssignmentTokens]

/-- The clause that names the returned columns, or nothing. -/
def returningTokens (columns : List String) : List Token :=
  if columns.isEmpty then []
  else [.blank, .keyword .RETURNING, .blank] ++ commaSeparated (columns.map .name)

theorem text_returningTokens (columns : List String) :
    text (returningTokens columns) = Statement.returningClause columns := by
  unfold returningTokens Statement.returningClause
  split
  · rfl
  · rw [text_append, text_names]
    rfl

theorem passage_returningTokens (n : Nat) (columns : List String) :
    Passage (returningTokens columns) n n columns := by
  unfold returningTokens
  split
  · have hnil : columns = [] := List.isEmpty_iff.mp ‹_›
    rw [hnil]
    exact Passage.nil n
  · have hword : Passage [.blank, .keyword .RETURNING, .blank] n n [] :=
      Passage.of_separated (by simp) rfl rfl n
    exact hword.append (passage_names n columns) (.inl (by simp [Token.isLoose]))

theorem isLoose_head_returningTokens (columns : List String) :
    ∀ t ∈ (returningTokens columns).head?, t.isLoose = true := by
  cases columns <;> simp [returningTokens, Token.isLoose]

end PgCollections
