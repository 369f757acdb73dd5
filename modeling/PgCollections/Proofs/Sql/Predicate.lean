import PgCollections.Proofs.Filter.Leaf
import PgCollections.Proofs.Sql.Bindings
import PgCollections.Proofs.Sql.Token
import PgCollections.Sql.Predicate

/-! # The text of a filter

`Leaf.tokens n` is how a leaf condition is written when `n` placeholders were handed out before,
and `Leaf.conjunction n` writes several, each with the numbers that follow those of the one before.
The predicate of a filter is exactly that text of its leaves (`Filter.runFrom_predicate`): the
recursion over nested conjunctions comes down to one pass over a flat list.  When the filter has a
fault, the predicate fails with the first one, and the values of the leaves before it are bound. -/

namespace PgCollections

open Sql

namespace Leaf

/-- The placeholders of `count` values after number `n`. -/
def slots (n count : Nat) : List Token := (slotsAfter n count).map .slot

/-- A leaf condition in a text with `n` placeholders before it. -/
def tokens (n : Nat) : Leaf → List Token
  | compare field c _ => [.name field, .blank, .comparison c, .blank, .slot (n + 1)]
  | any field _ =>
    [.slot (n + 1), .blank, .comparison .eq, .blank, .keyword .ANY, .opening, .name field, .closing]
  | oneOf field v vs =>
    [.name field, .blank, .keyword .IN, .blank, .opening] ++
      commaSeparated (slots n (v :: vs).length) ++ [.closing]
  | never => [.keyword .FALSE]
  | path field inner _ _ =>
    .name field :: ((slots n inner.length).flatMap ([.arrow, ·]) ++
      [.arrowText, .slot (n + inner.length + 1), .blank, .comparison .eq, .blank,
        .slot (n + inner.length + 2)])

/-- Leaf conditions one after the other, their placeholders numbered through. -/
def numbered (n : Nat) : List Leaf → List (List Token)
  | [] => []
  | l :: ls => l.tokens n :: numbered (n + l.values.length) ls

def andTokens : List Token := [.blank, .keyword .AND, .blank]

/-- The conjunction of leaf conditions. -/
def conjunction (n : Nat) (ls : List Leaf) : List Token := andTokens.intercalate (numbered n ls)

theorem numbered_append (n : Nat) (ls ms : List Leaf) :
    numbered n (ls ++ ms) = numbered n ls ++ numbered (n + (allValues ls).length) ms := by
  induction ls generalizing n with
  | nil => rfl
  | cons l ls ih => simp [numbered, ih, Nat.add_assoc]

theorem numbered_ne_nil (n : Nat) {ls : List Leaf} (h : ls ≠ []) : numbered n ls ≠ [] := by
  cases ls with
  | nil => exact absurd rfl h
  | cons l ls => exact List.cons_ne_nil _ _

theorem text_conjunction (n : Nat) (ls : List Leaf) :
    text (conjunction n ls) = " AND ".intercalate ((numbered n ls).map text) := by
  rw [conjunction, text_intercalate]
  rfl

theorem text_conjunction_append (n : Nat) {ls ms : List Leaf} (hls : ls ≠ []) (hms : ms ≠ []) :
    text (conjunction n (ls ++ ms)) =
      text (conjunction n ls) ++ " AND " ++ text (conjunction (n + (allValues ls).length) ms) := by
  rw [text_conjunction, text_conjunction, text_conjunction, numbered_append, List.map_append]
  refine String.intercalate_append_of_ne_nil ?_ ?_
  · exact mt List.map_eq_nil_iff.mp (numbered_ne_nil n hls)
  · exact mt List.map_eq_nil_iff.mp (numbered_ne_nil _ hms)

theorem text_commaSeparated_slots (n count : Nat) :
    text (commaSeparated (slots n count)) =
      ",".intercalate ((slotsAfter n count).map placeholder) := by
  rw [text_commaSeparated, slots, List.map_map]
  rfl

theorem text_arrows (ns : List Nat) :
    text ((ns.map Token.slot).flatMap ([.arrow, ·])) =
      String.join ((ns.map placeholder).map ("->" ++ ·)) := by
  induction ns with
  | nil => rfl
  | cons n ns ih => simp [ih, Token.text, String.append_assoc]

theorem tokens_ne_nil (n : Nat) (l : Leaf) : l.tokens n ≠ [] := by
  cases l <;> simp [tokens]

theorem conjunction_eq_nil_iff (n : Nat) (ls : List Leaf) : conjunction n ls = [] ↔ ls = [] := by
  cases ls with
  | nil => exact ⟨fun _ => rfl, fun _ => rfl⟩
  | cons l ls =>
      exact ⟨fun h => absurd h (intercalate_ne_nil _ _ (tokens_ne_nil n l)), fun h => by cases h⟩

/-- The clause that restricts a statement to the leaf conditions, or nothing. -/
def restriction (n : Nat) (ls : List Leaf) : List Token :=
  if ls.isEmpty then [] else [.blank, .keyword .WHERE, .blank] ++ conjunction n ls

/-! ### Texts of groups of leaves -/

/-- The texts of groups of leaf conditions, numbered through. -/
def segments (n : Nat) : List (List Leaf) → List String
  | [] => []
  | ls :: rest => text (conjunction n ls) :: segments (n + (allValues ls).length) rest

/-- Joining the texts of groups gives the text of all their leaves: no parentheses are needed, and
no group is empty. -/
theorem intercalate_segments (n : Nat) {groups : List (List Leaf)} (h : ∀ ls ∈ groups, ls ≠ []) :
    " AND ".intercalate (segments n groups) = text (conjunction n groups.flatten) := by
  induction groups generalizing n with
  | nil => rfl
  | cons ls rest ih =>
      have hls : ls ≠ [] := h ls List.mem_cons_self
      have ih := ih (n + (allValues ls).length) fun ms hms => h ms (List.mem_cons_of_mem ls hms)
      cases rest with
      | nil => simp [segments]
      | cons ms rest =>
          have hms : (ms :: rest).flatten ≠ [] := by
            simp [h ms (List.mem_cons_of_mem ls List.mem_cons_self)]
          have hrest : segments (n + (allValues ls).length) (ms :: rest) ≠ [] :=
            List.cons_ne_nil _ _
          rw [segments, String.intercalate_cons_of_ne_nil hrest, ih,
            ← text_conjunction_append n hls hms]
          rfl

end Leaf

/-! ### Compiling -/

/-- What compiling the parts one after the other gives: the conjunction of the leaf conditions, or
the first fault; what is bound before the fault stays bound. -/
def Parts.compiled (parts : Parts) (b : Bindings) : Except DbError String × Bindings :=
  (match Parts.fault? parts with
    | none => .ok (text (Leaf.conjunction b.index (Parts.leaves parts)))
    | some e => .error (.validation e),
    b.addAll (Leaf.allValues (Parts.leaves parts)))

theorem Parts.compiled_leaf (l : Leaf) (b : Bindings) :
    Parts.compiled [.ok l] b = (.ok (text (l.tokens b.index)), b.addAll l.values) := by
  simp [Parts.compiled, Parts.fault?, Parts.leaves, Leaf.conjunction, Leaf.numbered,
    List.intercalate]

theorem Parts.compiled_fault (e : ValidationError) (b : Bindings) :
    Parts.compiled [.error e] b = (.error (.validation e), b) := by
  simp [Parts.compiled, Parts.fault?, Parts.leaves]

namespace Building

variable {α : Type} {f : α → Building String} {parts : α → Parts}

/-- Compiling several conditions in order gives one text for each. -/
theorem runFrom_mapM : ∀ {as : List α}, (∀ a ∈ as, ∀ b, (f a).runFrom b = (parts a).compiled b) →
    ∀ b : Bindings, (as.mapM f).runFrom b =
      (match Parts.fault? (as.flatMap parts) with
        | none => .ok (Leaf.segments b.index (as.map fun a => Parts.leaves (parts a)))
        | some e => .error (.validation e),
        b.addAll (Leaf.allValues (Parts.leaves (as.flatMap parts))))
  | [], _, b => by simp [Parts.fault?, Parts.leaves, Leaf.segments]
  | a :: as, h, b => by
      have ha := h a List.mem_cons_self b
      have ih := runFrom_mapM (fun a' h' => h a' (List.mem_cons_of_mem a h'))
        (b.addAll (Leaf.allValues (Parts.leaves (parts a))))
      rw [List.mapM_cons, List.flatMap_cons, Parts.fault?_append]
      cases hfault : Parts.fault? (parts a) with
      | some e =>
          -- Nothing behind the first fault is compiled or bound.
          rw [runFrom_seq, ha, Parts.leaves_append_of_fault _ _ hfault]
          simp [Parts.compiled, hfault]
      | none =>
          rw [runFrom_seq, ha, Parts.leaves_append _ _ hfault]
          simp only [Parts.compiled, hfault, Option.none_or]
          rw [runFrom_seq, ih]
          cases Parts.fault? (as.flatMap parts) <;> simp [Leaf.segments]

/-- The texts of several conditions, joined by `AND`. -/
theorem runFrom_conjunction (f : α → Building String) (parts : α → Parts) {as : List α}
    (h : ∀ a ∈ as, ∀ b, (f a).runFrom b = (parts a).compiled b)
    (hne : ∀ a, parts a ≠ []) (b : Bindings) :
    (do return " AND ".intercalate (← as.mapM f) : Building String).runFrom b =
      Parts.compiled (as.flatMap parts) b := by
  rw [runFrom_seq, runFrom_mapM h, Parts.compiled]
  cases hfault : Parts.fault? (as.flatMap parts) with
  | some e => rfl
  | none =>
      have hfaults := Parts.fault?_flatMap_eq_none.mp hfault
      have hgroups : ∀ ls ∈ as.map fun a => Parts.leaves (parts a), ls ≠ [] := by
        intro ls hls
        obtain ⟨a, ha, rfl⟩ := List.mem_map.mp hls
        exact Parts.leaves_ne_nil (hfaults a ha) (hne a)
      simp only [runFrom_pure, Leaf.intercalate_segments b.index hgroups,
        Parts.leaves_flatMap hfaults]

end Building

namespace Operator

theorem predicates_eq_mapM (field : String) (ops : List Operator) :
    predicates field ops = ops.mapM (predicate field) := by
  induction ops with
  | nil => rfl
  | cons op ops ih => rw [predicates, List.mapM_cons, ih]

theorem runFrom_predicate (field : String) (op : Operator) :
    ∀ b, (predicate field op).runFrom b = Parts.compiled (parts field op) b := by
  induction op using Operator.induction with
  | compare c v =>
      intro b
      rw [parts, Parts.compiled_leaf]
      simp only [predicate, Building.runFrom_seq, Building.runFrom_bind, Building.runFrom_pure]
      simp [Leaf.tokens, Leaf.values, Token.text, String.append_assoc, Bindings.add_eq_addAll]
  | any v =>
      intro b
      rw [parts, Parts.compiled_leaf]
      simp only [predicate, Building.runFrom_seq, Building.runFrom_bind, Building.runFrom_pure]
      simp [← String.toList_inj, Leaf.tokens, Leaf.values, Token.text, Comparison.symbol,
        Keyword.text, Bindings.add_eq_addAll]
  | oneOf items =>
      intro b
      cases items with
      | nil =>
          rw [parts, Parts.compiled_leaf, predicate]
          simp [Leaf.tokens, Leaf.values, Token.text, Keyword.text]
      | cons v vs =>
          rw [parts, Parts.compiled_leaf]
          simp only [predicate, List.isEmpty_cons, Bool.false_eq_true, if_false,
            Building.runFrom_seq, Building.runFrom_bindAll, Building.runFrom_pure]
          rw [← Leaf.text_commaSeparated_slots]
          simp [← String.toList_inj, Leaf.tokens, Leaf.values, text_append, Token.text,
            Keyword.text]
  | path steps v =>
      intro b
      rw [parts, pathPart]
      cases hlast : steps.getLast? with
      | none =>
          rw [Parts.compiled_fault, predicate]
          simp only [hlast]
          rfl
      | some last =>
          simp only [predicate, hlast, Parts.compiled_leaf]
          simp only [Building.runFrom_seq, Building.runFrom_bindAll, Building.runFrom_bind,
            Building.runFrom_pure]
          rw [← Leaf.text_arrows]
          simp [← String.toList_inj, Leaf.tokens, Leaf.values, Leaf.slots, text_append, Token.text,
            Comparison.symbol, Bindings.add_eq_addAll, Nat.add_assoc]
  | all ops ih =>
      intro b
      cases ops with
      | nil =>
          rw [parts, predicate]
          simp [Parts.compiled_fault]
      | cons op ops =>
          simp only [predicate, parts, List.isEmpty_cons, Bool.false_eq_true, if_false]
          rw [predicates_eq_mapM, partsOfAll_eq_flatMap]
          exact Building.runFrom_conjunction _ _ ih (parts_ne_nil field) b

end Operator

theorem Condition.runFrom_predicate (field : String) (condition : Condition) (b : Bindings) :
    (condition.predicate field).runFrom b = Parts.compiled (condition.parts field) b := by
  cases condition <;> exact Operator.runFrom_predicate ..

namespace Filter

/-- The predicate of a filter is the conjunction of its leaf conditions, or its first fault. -/
theorem runFrom_predicate (filter : Filter) (b : Bindings) :
    filter.predicate.runFrom b = Parts.compiled filter.parts b := by
  unfold predicate parts
  exact Building.runFrom_conjunction _ _ (fun (field, condition) _ b =>
    condition.runFrom_predicate field b) (fun (field, condition) => condition.parts_ne_nil field) b

/-- What is given for a filter without faults. -/
def checked {α : Type} (filter : Filter) (a : α) : Except DbError α :=
  match filter.fault? with
  | none => .ok a
  | some e => .error (.validation e)

theorem checked_eq_ok_iff {α : Type} {filter : Filter} {a a' : α} :
    filter.checked a = .ok a' ↔ filter.fault? = none ∧ a' = a := by
  unfold checked
  cases filter.fault? <;> simp [eq_comm]

/-- The clause of a filter is that of its leaf conditions, or the filter's first fault. -/
theorem runFrom_whereClause (filter : Filter) (b : Bindings) :
    filter.whereClause.runFrom b =
      (filter.checked (text (Leaf.restriction b.index filter.leaves)),
        b.addAll (Leaf.allValues filter.leaves)) := by
  rw [whereClause, Building.runFrom_seq, runFrom_predicate, Parts.compiled, checked, fault?, leaves]
  cases Parts.fault? filter.parts with
  | some e => rfl
  | none =>
      have hiff := Leaf.conjunction_eq_nil_iff b.index (Parts.leaves filter.parts)
      simp only [Building.runFrom_pure, String.isEmpty_iff, text_eq_empty_iff, hiff,
        Leaf.restriction, List.isEmpty_iff]
      split
      · rfl
      · rw [text_append]
        rfl

end Filter

end PgCollections
