import PgCollections.Proofs.Sql.Clause

/-! # Compiling in a single pass

`Leaf.compile` goes once over a list of leaf conditions: it writes each one with the next free
numbers, and joins the texts.  No list is inside another one there.  The predicate of a filter,
which follows the conjunctions wherever they are nested, is what this pass gives for the leaves of
the filter (`Filter.predicate_in_single_pass`).

So the nesting does not matter: a filter is `Regrouped` if one of its conjunctions is replaced by
another one with the same leaves.  And the numbers matter only by where they start: `raise?` takes a
text apart and puts it together again with higher numbers. -/

namespace PgCollections

open Sql

/-! ### The pass -/

namespace Leaf

/-- A leaf condition, written with the numbers after `n`. -/
def written (n : Nat) : Leaf → String
  | compare field c _ => quoteIdentifier field ++ " " ++ c.symbol ++ " " ++ placeholder (n + 1)
  | any field _ => placeholder (n + 1) ++ " = ANY(" ++ quoteIdentifier field ++ ")"
  | oneOf field v vs =>
    quoteIdentifier field ++ " IN (" ++
      ",".intercalate ((slotsAfter n (v :: vs).length).map placeholder) ++ ")"
  | never => "FALSE"
  | path field inner _ _ =>
    quoteIdentifier field ++ String.join ((slotsAfter n inner.length).map ("->" ++ placeholder ·)) ++
      "->>" ++ placeholder (n + inner.length + 1) ++ " = " ++ placeholder (n + inner.length + 2)

/-- Writes one more leaf condition behind those that are written. -/
def writeNext : List String × Bindings → Leaf → List String × Bindings
  | (texts, b), l => (texts ++ [l.written b.index], b.addAll l.values)

/-- The conjunction of leaf conditions, and what is bound with it. -/
def compile (b : Bindings) (ls : List Leaf) : String × Bindings :=
  let (texts, bound) := ls.foldl writeNext ([], b)
  (" AND ".intercalate texts, bound)

theorem text_tokens (n : Nat) (l : Leaf) : text (l.tokens n) = l.written n := by
  cases l with
  | compare field c v => simp [tokens, written, Token.text, String.append_assoc]
  | any field v =>
      simp [← String.toList_inj, tokens, written, Token.text, Comparison.symbol, Keyword.text]
  | never => rfl
  | oneOf field v vs =>
      rw [tokens, text_append, text_append, text_commaSeparated_slots]
      simp [written, Token.text, Keyword.text]
  | path field inner last v =>
      have harrows := text_arrows (slotsAfter n inner.length)
      rw [List.map_map] at harrows
      rw [tokens, text_cons, text_append, slots, harrows]
      simp [← String.toList_inj, written, Token.text, Comparison.symbol, Function.comp_def]

/-- What the pass has written and bound when it has come to the end of a list. -/
theorem foldl_writeNext (texts : List String) (b : Bindings) (ls : List Leaf) :
    ls.foldl writeNext (texts, b) =
      (texts ++ (numbered b.index ls).map text, b.addAll (allValues ls)) := by
  induction ls generalizing texts b with
  | nil => simp [numbered]
  | cons l ls ih =>
      rw [List.foldl_cons, writeNext, ih]
      simp [numbered, text_tokens]

theorem compile_eq (b : Bindings) (ls : List Leaf) :
    compile b ls = (text (conjunction b.index ls), b.addAll (allValues ls)) := by
  rw [compile, foldl_writeNext, List.nil_append, text_conjunction]

end Leaf

/-- A filter has a predicate if it has no fault, and then that of the pass over its leaves. -/
theorem Filter.predicate_eq_ok_iff {filter : Filter} {b bound : Bindings} {sql : String} :
    filter.predicate.runFrom b = (.ok sql, bound) ↔
      filter.fault? = none ∧ (sql, bound) = Leaf.compile b filter.leaves := by
  rw [runFrom_predicate, Parts.compiled, Leaf.compile_eq, ← fault?, ← leaves]
  cases filter.fault? with
  | none => simp [eq_comm]
  | some e => simp

/-! ### Other conjunctions -/

/-- Parts without a fault are leaf conditions. -/
theorem Parts.eq_map_leaves : ∀ parts : Parts, fault? parts = none →
    parts = (leaves parts).map .ok
  | [], _ => rfl
  | .ok l :: parts, h => congrArg (.ok l :: ·) (eq_map_leaves parts h)

namespace Operator

/-- The leaf conditions of an operator on a field, up to its first fault. -/
def leaves (field : String) (op : Operator) : List Leaf := Parts.leaves (op.parts field)

/-- One conjunction in an operator on a field is replaced by another one, which has no fault and the
same leaf conditions in the same order. -/
inductive Regrouped (field : String) : Operator → Operator → Prop
  | conjunction {ops ops' : List Operator} : Parts.fault? ((all ops').parts field) = none →
    (all ops').leaves field = (all ops).leaves field → Regrouped field (.all ops) (.all ops')
  | member (before : List Operator) {op op' : Operator} (after : List Operator) :
    Regrouped field op op' →
      Regrouped field (.all (before ++ op :: after)) (.all (before ++ op' :: after))

theorem parts_all {field : String} {ops : List Operator} (h : ops ≠ []) :
    (all ops).parts field = ops.flatMap (parts field) := by
  rw [parts, if_neg (by simpa using h), partsOfAll_eq_flatMap]

theorem Regrouped.parts_eq {field : String} {op op' : Operator} (h : op.Regrouped field op')
    (hop : Parts.fault? (op.parts field) = none) : op'.parts field = op.parts field := by
  induction h with
  | conjunction hfault hleaves =>
      rw [Parts.eq_map_leaves _ hfault, Parts.eq_map_leaves _ hop]
      exact congrArg (List.map Except.ok) hleaves
  | @member before op op' after _ ih =>
      rw [parts_all (by simp)] at hop
      have hmember := Parts.fault?_flatMap_eq_none.mp hop op (by simp)
      rw [parts_all (by simp), parts_all (by simp), List.flatMap_append, List.flatMap_append,
        List.flatMap_cons, List.flatMap_cons, ih hmember]

end Operator

/-- One conjunction in a filter is replaced by another one with the same leaf conditions. -/
inductive Filter.Regrouped : Filter → Filter → Prop
  | entry (before : Keyed Condition) {field : String} {op op' : Operator}
    (after : Keyed Condition) : op.Regrouped field op' →
      Regrouped ⟨before ++ (field, .operator op) :: after⟩
        ⟨before ++ (field, .operator op') :: after⟩

theorem Filter.Regrouped.parts_eq {filter filter' : Filter} (h : filter.Regrouped filter')
    (hfilter : filter.fault? = none) : filter'.parts = filter.parts := by
  cases h with
  | @entry before field op op' after hop =>
      have hentry := Parts.fault?_flatMap_eq_none.mp hfilter (field, .operator op) (by simp)
      simp only [parts, List.flatMap_append, List.flatMap_cons, Condition.parts,
        hop.parts_eq hentry]

/-! ### Other numbers -/

namespace Sql

/-- The number of a placeholder raised by `k`. -/
def Token.raise (k : Nat) : Token → Token
  | slot i => .slot (k + i)
  | t => t

/-- A text with the numbers of its placeholders raised by `k`, if it consists of tokens. -/
def raise? (k : Nat) (sql : String) : Option String :=
  (lex sql.toList).map fun ts => text (ts.map (Token.raise k))

theorem raise?_text (k : Nat) {ts : List Token} (h : Separated ts) :
    raise? k (text ts) = some (text (ts.map (Token.raise k))) := by
  rw [raise?, lex_text h, Option.map_some]

end Sql

/-- Joining lists, and changing each of their elements. -/
theorem map_intercalate {α β : Type} (f : α → β) (sep : List α) : ∀ parts : List (List α),
    (sep.intercalate parts).map f = (sep.map f).intercalate (parts.map (List.map f))
  | [] => rfl
  | [part] => by simp
  | part :: next :: parts => by
      have ih := map_intercalate f sep (next :: parts)
      simp_all [List.intercalate]

theorem map_raise_commaSeparated (k : Nat) (ts : List Token) :
    (commaSeparated ts).map (Token.raise k) = commaSeparated (ts.map (Token.raise k)) := by
  rw [commaSeparated, map_intercalate, List.map_map, commaSeparated, List.map_map]
  rfl

namespace Leaf

theorem map_raise_slots (k n count : Nat) :
    (slots n count).map (Token.raise k) = slots (k + n) count := by
  have hnumbers : (slotsAfter n count).map (k + ·) = slotsAfter (k + n) count :=
    List.map_add_range' ..
  rw [slots, slots, ← hnumbers, List.map_map, List.map_map]
  rfl

theorem map_raise_tokens (k n : Nat) (l : Leaf) :
    (l.tokens n).map (Token.raise k) = l.tokens (k + n) := by
  cases l with
  | oneOf field v vs =>
      have hslots := map_raise_slots k n (v :: vs).length
      rw [tokens, tokens, List.map_append, List.map_append, map_raise_commaSeparated, hslots]
      rfl
  | path field inner last v =>
      have harrows : ((slots n inner.length).flatMap ([.arrow, ·])).map (Token.raise k) =
          (slots (k + n) inner.length).flatMap ([.arrow, ·]) := by
        rw [← map_raise_slots, List.map_flatMap, List.flatMap_map]
        rfl
      rw [tokens, tokens, List.map_cons, List.map_append, harrows]
      simp [Token.raise, Nat.add_assoc]
  | _ => rfl

theorem map_raise_conjunction (k n : Nat) (ls : List Leaf) :
    (conjunction n ls).map (Token.raise k) = conjunction (k + n) ls := by
  have hnumbered : (numbered n ls).map (List.map (Token.raise k)) = numbered (k + n) ls := by
    induction ls generalizing n with
    | nil => rfl
    | cons l ls ih => simp [numbered, map_raise_tokens, ih, Nat.add_assoc]
  rw [conjunction, conjunction, map_intercalate, hnumbered]
  rfl

/-- A conjunction whose numbers start from 1 gives, with its numbers raised, one that starts later. -/
theorem raise?_conjunction (k : Nat) (ls : List Leaf) :
    raise? k (text (conjunction 0 ls)) = some (text (conjunction k ls)) := by
  rw [raise?_text k (passage_conjunction 0 ls).separated, map_raise_conjunction, Nat.add_zero]

end Leaf

namespace Filter

/-- A predicate is what one pass over the leaf conditions gives, so that neither the text nor the
parameters change if a conjunction is replaced by another one with the same leaves.  From other
bindings the same values are bound and the numbers in the text are raised. -/
theorem predicate_in_single_pass {filter : Filter} {b bound : Bindings} {sql : String}
    (h : filter.predicate.runFrom b = (.ok sql, bound)) :
    (sql, bound) = Leaf.compile b filter.leaves ∧
    (∀ filter', filter.Regrouped filter' → filter'.predicate.runFrom b = (.ok sql, bound)) ∧
    ∃ sql₀ values, filter.predicate.runFrom {} = (.ok sql₀, ⟨values.length, values⟩) ∧
      raise? b.index sql₀ = some sql ∧
      bound = ⟨b.index + values.length, b.params ++ values⟩ := by
  obtain ⟨hfault, hpass⟩ := predicate_eq_ok_iff.mp h
  refine ⟨hpass, fun filter' hfilter' => ?_, ?_⟩
  · -- The leaf conditions and the faults are the same, and more is not seen.
    rw [runFrom_predicate, hfilter'.parts_eq hfault, ← runFrom_predicate, h]
  · rw [Leaf.compile_eq] at hpass
    obtain ⟨rfl, rfl⟩ := Prod.mk.inj hpass
    refine ⟨_, Leaf.allValues filter.leaves, ?_, Leaf.raise?_conjunction b.index filter.leaves, rfl⟩
    rw [predicate_eq_ok_iff, Leaf.compile_eq]
    refine ⟨hfault, ?_⟩
    simp [Bindings.addAll]

/-- A filter with a conjunction inside another one, and behind a first condition. -/
def nestedRange : Filter :=
  ⟨[("a$1", .value (.nat 1)), ("n", .operator (.all [.compare .gte (.nat 2), .all [
      .compare .lt (.nat 3), .oneOf [.nat 4, .nat 5]], .path [.string "x", .nat 0] (.nat 6)]))]⟩

/-- The same with the inner conjunction in other groups. -/
def regroupedRange : Filter :=
  ⟨[("a$1", .value (.nat 1)), ("n", .operator (.all [.compare .gte (.nat 2), .all [
      .all [.compare .lt (.nat 3)], .all [.all [.oneOf [.nat 4, .nat 5]]]],
      .path [.string "x", .nat 0] (.nat 6)]))]⟩

theorem predicate_in_single_pass_nestedRange :
    ∃ sql bound, nestedRange.predicate.runFrom ⟨1, [.null]⟩ = (.ok sql, bound) ∧
      (sql, bound) = Leaf.compile ⟨1, [.null]⟩ nestedRange.leaves ∧
      nestedRange.Regrouped regroupedRange ∧
      regroupedRange.predicate.runFrom ⟨1, [.null]⟩ = (.ok sql, bound) ∧
      ∃ sql₀, raise? 1 sql₀ = some sql := by
  have h : nestedRange.predicate.runFrom ⟨1, [.null]⟩ = (.ok _, _) := rfl
  have hinner : Operator.Regrouped "n"
      (.all [.compare .lt (.nat 3), .oneOf [.nat 4, .nat 5]])
      (.all [.all [.compare .lt (.nat 3)], .all [.all [.oneOf [.nat 4, .nat 5]]]]) :=
    .conjunction rfl rfl
  have hregrouped : nestedRange.Regrouped regroupedRange :=
    .entry [_] [] (.member [_] [_] hinner)
  obtain ⟨hpass, hother, sql₀, -, -, hraise, -⟩ := predicate_in_single_pass h
  exact ⟨_, _, h, hpass, hregrouped, hother _ hregrouped, sql₀, hraise⟩

end Filter

end PgCollections
