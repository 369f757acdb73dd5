import Mathlib.Data.List.Basic
import PgCollections.Filter.Basic

/-! # Leaf conditions

A filter says as much as the list of its leaf conditions from left to right: conjunctions are
flattened, a plain value is a comparison for equality, and membership in the empty list is the
condition that never holds.  `Operator.parts` and `Filter.parts` list these leaves together with
the faults that a filter can have (a path without steps, a conjunction of nothing), each at its
place; `Parts.leaves` are the leaves before the first fault, and `Parts.fault?` is that fault.

`Operator.induction` is the induction over operators, with a hypothesis for every member of a
conjunction. -/

namespace PgCollections

/-- A condition that contains no other one. -/
inductive Leaf where
  | compare (field : String) (c : Comparison) (value : Json)
  | any (field : String) (value : Json)
  /-- Membership in a list of at least one value. -/
  | oneOf (field : String) (first : Json) (rest : List Json)
  /-- Membership in the empty list, of whatever field. -/
  | never
  /-- A path of at least one step. -/
  | path (field : String) (inner : List Json) (last value : Json)

namespace Leaf

/-- The values in the order of their placeholders. -/
def values : Leaf → List Json
  | compare _ _ v | any _ v => [v]
  | oneOf _ v vs => v :: vs
  | never => []
  | path _ inner last v => inner ++ [last, v]

def field? : Leaf → Option String
  | compare field .. | any field _ | oneOf field .. | path field .. => some field
  | never => none

/-- The values of several conditions. -/
def allValues (leaves : List Leaf) : List Json := leaves.flatMap values

@[simp] theorem allValues_nil : allValues [] = [] := rfl

@[simp] theorem allValues_cons (l : Leaf) (ls : List Leaf) :
    allValues (l :: ls) = l.values ++ allValues ls := rfl

@[simp] theorem allValues_append (ls ms : List Leaf) :
    allValues (ls ++ ms) = allValues ls ++ allValues ms := by
  simp [allValues]

end Leaf

/-! ### Leaves and faults -/

/-- Leaf conditions and faults, each at its place. -/
abbrev Parts := List (Except ValidationError Leaf)

namespace Parts

/-- The leaf conditions before the first fault. -/
def leaves : Parts → List Leaf
  | .ok leaf :: parts => leaf :: leaves parts
  | _ => []

/-- The first fault. -/
def fault? : Parts → Option ValidationError
  | [] => none
  | .ok _ :: parts => fault? parts
  | .error e :: _ => some e

theorem fault?_append : ∀ parts more : Parts,
    fault? (parts ++ more) = (fault? parts).or (fault? more)
  | [], _ => rfl
  | .ok _ :: parts, more => fault?_append parts more
  | .error _ :: _, _ => rfl

theorem leaves_append : ∀ parts more : Parts, fault? parts = none →
    leaves (parts ++ more) = leaves parts ++ leaves more
  | [], _, _ => rfl
  | .ok leaf :: parts, more, h => congrArg (leaf :: ·) (leaves_append parts more h)

theorem leaves_append_of_fault {e : ValidationError} : ∀ parts more : Parts,
    fault? parts = some e → leaves (parts ++ more) = leaves parts
  | .ok leaf :: parts, more, h => congrArg (leaf :: ·) (leaves_append_of_fault parts more h)
  | .error _ :: _, _, _ => rfl

theorem fault?_flatMap_eq_none {α : Type} {f : α → Parts} {as : List α} :
    fault? (as.flatMap f) = none ↔ ∀ a ∈ as, fault? (f a) = none := by
  induction as with
  | nil => simp [fault?]
  | cons a as ih => simp [fault?_append, ih]

theorem leaves_flatMap {α : Type} {f : α → Parts} {as : List α}
    (h : ∀ a ∈ as, fault? (f a) = none) :
    leaves (as.flatMap f) = (as.map fun a => leaves (f a)).flatten := by
  induction as with
  | nil => rfl
  | cons a as ih =>
      rw [List.flatMap_cons, leaves_append _ _ (h a List.mem_cons_self),
        ih fun a' h' => h a' (List.mem_cons_of_mem a h')]
      rfl

theorem leaves_ne_nil {parts : Parts} (h : fault? parts = none) (hne : parts ≠ []) :
    leaves parts ≠ [] := by
  cases parts with
  | nil => exact absurd rfl hne
  | cons part parts => cases part with
    | error e => cases h
    | ok leaf => exact List.cons_ne_nil leaf _

end Parts

namespace Operator

/-- Induction over operators, with a hypothesis for every member of a conjunction. -/
theorem induction {P : Operator → Prop} (compare : ∀ c v, P (.compare c v)) (any : ∀ v, P (.any v))
    (oneOf : ∀ items, P (.oneOf items)) (path : ∀ steps v, P (.path steps v))
    (all : ∀ ops, (∀ op ∈ ops, P op) → P (.all ops)) : ∀ op, P op
  | .compare c v => compare c v
  | .any v => any v
  | .oneOf items => oneOf items
  | .path steps v => path steps v
  | .all ops => all ops fun op _ => induction compare any oneOf path all op

/-- A path, unless it has no steps. -/
def pathPart (field : String) (steps : List Json) (value : Json) : Except ValidationError Leaf :=
  match steps.getLast? with
  | some last => .ok (.path field steps.dropLast last value)
  | none => .error (.emptyPath field)

mutual

/-- The leaf conditions and the faults of an operator on a field, from left to right. -/
def parts (field : String) : Operator → Parts
  | .compare c v => [.ok (.compare field c v)]
  | .any v => [.ok (.any field v)]
  | .oneOf [] => [.ok .never]
  | .oneOf (v :: vs) => [.ok (.oneOf field v vs)]
  | .path steps v => [pathPart field steps v]
  | .all ops => if ops.isEmpty then [.error (.emptyAnd field)] else partsOfAll field ops

def partsOfAll (field : String) : List Operator → Parts
  | [] => []
  | op :: ops => parts field op ++ partsOfAll field ops

end

theorem partsOfAll_eq_flatMap (field : String) (ops : List Operator) :
    partsOfAll field ops = ops.flatMap (parts field) := by
  induction ops with
  | nil => rfl
  | cons op ops ih => rw [partsOfAll, ih, List.flatMap_cons]

theorem parts_ne_nil (field : String) (op : Operator) : parts field op ≠ [] := by
  induction op using Operator.induction with
  | compare | any | path => simp [parts]
  | oneOf items => cases items <;> simp [parts]
  | all ops ih =>
      cases ops with
      | nil => simp [parts]
      | cons op ops =>
          simp only [parts, List.isEmpty_cons, Bool.false_eq_true, if_false, partsOfAll]
          exact List.append_ne_nil_of_left_ne_nil (ih op List.mem_cons_self) _

end Operator

/-- The leaf conditions and the faults of a condition. -/
def Condition.parts (field : String) : Condition → Parts
  | .value v => Operator.parts field (.compare .eq v)
  | .operator op => op.parts field

theorem Condition.parts_ne_nil (field : String) (condition : Condition) :
    condition.parts field ≠ [] := by
  cases condition <;> exact Operator.parts_ne_nil field _

namespace Filter

/-- The leaf conditions and the faults of a filter. -/
def parts (filter : Filter) : Parts :=
  filter.entries.flatMap fun (field, condition) => condition.parts field

/-- The leaf conditions of a filter, up to its first fault. -/
def leaves (filter : Filter) : List Leaf := Parts.leaves filter.parts

/-- The first fault of a filter. -/
def fault? (filter : Filter) : Option ValidationError := Parts.fault? filter.parts

theorem parts_eq_nil_iff (filter : Filter) : filter.parts = [] ↔ filter.entries = [] := by
  cases h : filter.entries with
  | nil => simp [parts, h]
  | cons entry entries => simp [parts, h, Condition.parts_ne_nil]

/-- A filter without faults has a leaf condition if it has an entry. -/
theorem leaves_eq_nil_iff {filter : Filter} (h : filter.fault? = none) :
    filter.leaves = [] ↔ filter.entries = [] := by
  rw [← parts_eq_nil_iff]
  refine ⟨fun hl => ?_, fun hp => by rw [leaves, hp]; rfl⟩
  by_contra hne
  exact Parts.leaves_ne_nil h hne hl

end Filter

end PgCollections
