import PgCollections.Proofs.Filter.Leaf

/-! # The meaning of filters

A condition holds for a row, fails for it, or is unknown, as when a column is null.  What the
comparisons, the lists and the steps into a document mean is left to an `Interpretation`; a filter
adds nothing but conjunctions to it.  The meaning is defined on the filter as it is nested.  The
main statement is `Filter.meaning_eq_all_leaves`: a filter without faults means the conjunction of
its leaf conditions. -/

namespace PgCollections

universe u v

/-- The three truth values of a condition. -/
inductive Truth where
  | holds
  | fails
  | unknown
deriving DecidableEq

namespace Truth

/-- The conjunction of Kleene's logic. -/
def and : Truth → Truth → Truth
  | fails, _ => fails
  | holds, t => t
  | unknown, fails => fails
  | unknown, _ => unknown

def all (ts : List Truth) : Truth := ts.foldr and holds

theorem and_assoc (s t r : Truth) : (s.and t).and r = s.and (t.and r) := by
  cases s <;> cases t <;> cases r <;> rfl

theorem and_holds (t : Truth) : t.and holds = t := by
  cases t <;> rfl

theorem all_append (ss ts : List Truth) : all (ss ++ ts) = (all ss).and (all ts) := by
  induction ss with
  | nil => rfl
  | cons s ss ih => exact (congrArg s.and ih).trans (and_assoc s (all ss) (all ts)).symm

end Truth

/-- What columns, values and the atomic conditions on them mean.  Rows are of type `ρ`, and what a
column of a row contains is of type `α`. -/
structure Interpretation (ρ : Type u) (α : Type v) where
  column : ρ → String → α
  value : Json → α
  compare : Comparison → α → α → Truth
  /-- The first is an element of the second, an array. -/
  elementOf : α → α → Truth
  /-- The value is one of the items. -/
  member : α → List α → Truth
  /-- What a document contains under a key. -/
  step : (document key : α) → α
  /-- The text of what a document contains under a key. -/
  stepText : (document key : α) → α

variable {ρ : Type u} {α : Type v} (I : Interpretation ρ α) (row : ρ)

/-- What is found at the end of a path.  Only the last step gives a text. -/
def Interpretation.follow (document : α) : List Json → α
  | [] => document
  | [last] => I.stepText document (I.value last)
  | key :: next :: keys => follow (I.step document (I.value key)) (next :: keys)

theorem Interpretation.follow_append_last (document : α) (inner : List Json) (last : Json) :
    I.follow document (inner ++ [last]) =
      I.stepText (inner.foldl (fun d key => I.step d (I.value key)) document) (I.value last) := by
  induction inner generalizing document with
  | nil => rfl
  | cons key inner ih =>
      have hrest := ih (I.step document (I.value key))
      cases inner with
      | nil => exact hrest
      | cons next inner => exact hrest

mutual

/-- The truth of an operator on a field of a row. -/
def Operator.meaning (field : String) : Operator → Truth
  | .compare c v => I.compare c (I.column row field) (I.value v)
  | .any v => I.elementOf (I.value v) (I.column row field)
  | .oneOf [] => .fails
  | .oneOf (v :: vs) => I.member (I.column row field) ((v :: vs).map I.value)
  | .path steps v => I.compare .eq (I.follow (I.column row field) steps) (I.value v)
  | .all ops => Truth.all (Operator.meanings field ops)

def Operator.meanings (field : String) : List Operator → List Truth
  | [] => []
  | op :: ops => op.meaning field :: Operator.meanings field ops

end

/-- The truth of a condition on a field of a row; a plain value means equality. -/
def Condition.meaning (field : String) : Condition → Truth
  | .value v => I.compare .eq (I.column row field) (I.value v)
  | .operator op => op.meaning I row field

/-- The truth of a filter for a row. -/
def Filter.meaning (filter : Filter) : Truth :=
  Truth.all (filter.entries.map fun (field, condition) => condition.meaning I row field)

/-! ### Leaves -/

def Leaf.meaning : Leaf → Truth
  | .compare field c v => I.compare c (I.column row field) (I.value v)
  | .any field v => I.elementOf (I.value v) (I.column row field)
  | .oneOf field v vs => I.member (I.column row field) ((v :: vs).map I.value)
  | .never => .fails
  | .path field inner last v =>
    I.compare .eq (I.follow (I.column row field) (inner ++ [last])) (I.value v)

/-- The conjunction of the leaf conditions. -/
def Parts.meaning (parts : Parts) : Truth :=
  Truth.all ((Parts.leaves parts).map (Leaf.meaning I row))

theorem Parts.meaning_leaf (l : Leaf) : Parts.meaning I row [.ok l] = l.meaning I row :=
  Truth.and_holds _

/-- Conjunctions can be flattened. -/
theorem Parts.meaning_flatMap {β : Type} {f : β → Parts} {m : β → Truth} :
    ∀ {bs : List β}, (∀ b ∈ bs, fault? (f b) = none → m b = Parts.meaning I row (f b)) →
      fault? (bs.flatMap f) = none → Truth.all (bs.map m) = Parts.meaning I row (bs.flatMap f)
  | [], _, _ => rfl
  | b :: bs, hm, h => by
      have hfaults := fault?_flatMap_eq_none.mp h
      have hb : fault? (f b) = none := hfaults b List.mem_cons_self
      have hbs : fault? (bs.flatMap f) = none :=
        fault?_flatMap_eq_none.mpr fun b' hb' => hfaults b' (List.mem_cons_of_mem b hb')
      have ih := meaning_flatMap (fun b' hb' => hm b' (List.mem_cons_of_mem b hb')) hbs
      rw [meaning, List.flatMap_cons, leaves_append _ _ hb, List.map_append, Truth.all_append]
      exact congr (congrArg Truth.and (hm b List.mem_cons_self hb)) ih

namespace Operator

theorem meanings_eq_map (field : String) (ops : List Operator) :
    meanings I row field ops = ops.map (meaning I row field) := by
  induction ops with
  | nil => rfl
  | cons op ops ih => rw [meanings, ih, List.map_cons]

theorem meaning_eq_parts (field : String) (op : Operator) :
    Parts.fault? (parts field op) = none →
      meaning I row field op = Parts.meaning I row (parts field op) := by
  induction op using Operator.induction with
  | compare c v => intro _; rw [parts, Parts.meaning_leaf, meaning, Leaf.meaning]
  | any v => intro _; rw [parts, Parts.meaning_leaf, meaning, Leaf.meaning]
  | oneOf items =>
      intro _
      cases items <;> rw [parts, Parts.meaning_leaf, meaning, Leaf.meaning]
  | path steps v =>
      -- Without steps there is a fault and no leaf, whatever the meaning.
      intro h
      cases hlast : steps.getLast? with
      | none => simp [parts, pathPart, hlast, Parts.fault?] at h
      | some last =>
          have hsteps : steps.dropLast ++ [last] = steps := List.dropLast_append_getLast? last hlast
          rw [parts, pathPart, hlast, Parts.meaning_leaf, Leaf.meaning, hsteps, meaning]
  | all ops ih =>
      intro h
      cases ops with
      | nil => cases h
      | cons op ops =>
          rw [parts, if_neg (by simp), partsOfAll_eq_flatMap] at h ⊢
          rw [meaning, meanings_eq_map]
          exact Parts.meaning_flatMap I row ih h

end Operator

theorem Condition.meaning_eq_parts (field : String) (condition : Condition)
    (h : Parts.fault? (condition.parts field) = none) :
    condition.meaning I row field = Parts.meaning I row (condition.parts field) := by
  cases condition with
  | value v =>
      rw [parts, Operator.parts, Parts.meaning_leaf]
      rfl
  | operator op => exact op.meaning_eq_parts I row field h

/-- A filter without faults means the conjunction of its leaf conditions. -/
theorem Filter.meaning_eq_all_leaves {filter : Filter} (h : filter.fault? = none) :
    filter.meaning I row = Truth.all (filter.leaves.map (Leaf.meaning I row)) :=
  Parts.meaning_flatMap I row (fun (field, condition) _ h =>
    condition.meaning_eq_parts I row field h) h

end PgCollections
