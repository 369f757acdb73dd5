import PgCollections.Proofs.Filter.Leaf

/-! # The shape of a filter

`Operator.mapValues` puts other values in the place of the values of an operator and leaves all else
as it is.  What is left when every value is null is the shape: the fields in order, the tags, the
lengths of lists and paths, and the conjunctions.  Two filters are `Alike` if they have the same
shape.  Leaf conditions and faults come with the shape: alike filters have the same first fault
(`Filter.Alike.fault?_eq`) and leaf conditions that differ in nothing but their values
(`Filter.Alike.leaves_eq`). -/

namespace PgCollections

/-- What stands for a value where only the shape counts. -/
def Json.blank (_ : Json) : Json := .null

namespace Leaf

/-- The condition with other values. -/
def mapValues (f : Json → Json) : Leaf → Leaf
  | compare field c v => .compare field c (f v)
  | any field v => .any field (f v)
  | oneOf field v vs => .oneOf field (f v) (vs.map f)
  | never => .never
  | path field inner last v => .path field (inner.map f) (f last) (f v)

theorem values_mapValues (f : Json → Json) (l : Leaf) :
    (l.mapValues f).values = l.values.map f := by
  cases l <;> simp [mapValues, values]

theorem allValues_mapValues (f : Json → Json) (ls : List Leaf) :
    allValues (ls.map (mapValues f)) = (allValues ls).map f := by
  induction ls with
  | nil => rfl
  | cons l ls ih => simp [values_mapValues, ih]

end Leaf

namespace Parts

def mapValues (f : Json → Json) (parts : Parts) : Parts := parts.map (Except.map (Leaf.mapValues f))

theorem fault?_mapValues (f : Json → Json) : ∀ parts : Parts,
    fault? (parts.mapValues f) = fault? parts
  | [] => rfl
  | .ok _ :: parts => fault?_mapValues f parts
  | .error _ :: _ => rfl

theorem leaves_mapValues (f : Json → Json) : ∀ parts : Parts,
    leaves (parts.mapValues f) = (leaves parts).map (Leaf.mapValues f)
  | [] => rfl
  | .ok l :: parts => congrArg (l.mapValues f :: ·) (leaves_mapValues f parts)
  | .error _ :: _ => rfl

theorem mapValues_flatMap (f : Json → Json) {α : Type} (g : α → Parts) (as : List α) :
    mapValues f (as.flatMap g) = as.flatMap fun a => (g a).mapValues f :=
  List.map_flatMap

end Parts

namespace Operator

mutual

/-- The operator with other values. -/
def mapValues (f : Json → Json) : Operator → Operator
  | .compare c v => .compare c (f v)
  | .any v => .any (f v)
  | .oneOf items => .oneOf (items.map f)
  | .path steps v => .path (steps.map f) (f v)
  | .all ops => .all (mapValuesOfAll f ops)

def mapValuesOfAll (f : Json → Json) : List Operator → List Operator
  | [] => []
  | op :: ops => mapValues f op :: mapValuesOfAll f ops

end

theorem mapValuesOfAll_eq_map (f : Json → Json) (ops : List Operator) :
    mapValuesOfAll f ops = ops.map (mapValues f) := by
  induction ops with
  | nil => rfl
  | cons op ops ih => rw [mapValuesOfAll, ih, List.map_cons]

/-- Other values lead to the same leaf conditions with these values, and to the same faults. -/
theorem parts_mapValues (field : String) (f : Json → Json) (op : Operator) :
    parts field (op.mapValues f) = (parts field op).mapValues f := by
  induction op using Operator.induction with
  | compare | any => rfl
  | oneOf items => cases items <;> rfl
  | path steps v =>
      cases hlast : steps.getLast? with
      | none => simp [mapValues, parts, pathPart, hlast, Parts.mapValues, Except.map]
      | some last =>
          simp [mapValues, parts, pathPart, hlast, Parts.mapValues, Except.map, Leaf.mapValues]
  | all ops ih =>
      cases ops with
      | nil => rfl
      | cons op ops =>
          have hne : (mapValuesOfAll f (op :: ops)).isEmpty = false := rfl
          simp only [mapValues, parts, hne, List.isEmpty_cons, Bool.false_eq_true, if_false]
          rw [mapValuesOfAll_eq_map, partsOfAll_eq_flatMap, partsOfAll_eq_flatMap,
            Parts.mapValues_flatMap, List.flatMap_map]
          exact List.flatMap_congr ih

end Operator

/-- The shape of a condition; a plain value is a comparison for equality. -/
def Condition.shape : Condition → Operator
  | .value v => Operator.mapValues Json.blank (.compare .eq v)
  | .operator op => op.mapValues Json.blank

theorem Condition.parts_shape (field : String) (condition : Condition) :
    condition.shape.parts field = (condition.parts field).mapValues Json.blank := by
  cases condition <;> exact Operator.parts_mapValues field Json.blank _

namespace Filter

/-- The fields in order, each with the shape of its condition. -/
def shape (filter : Filter) : Keyed Operator :=
  filter.entries.map fun (field, condition) => (field, condition.shape)

/-- The filters differ in nothing but their values. -/
def Alike (filter filter' : Filter) : Prop := filter.shape = filter'.shape

theorem mapValues_parts (filter : Filter) :
    filter.parts.mapValues Json.blank =
      filter.shape.flatMap fun (field, op) => op.parts field := by
  rw [parts, Parts.mapValues_flatMap, shape, List.flatMap_map]
  exact List.flatMap_congr fun entry _ => (entry.2.parts_shape entry.1).symm

namespace Alike

variable {filter filter' : Filter} (h : filter.Alike filter')

include h

theorem parts_eq : filter.parts.mapValues Json.blank = filter'.parts.mapValues Json.blank := by
  rw [mapValues_parts, mapValues_parts, show filter.shape = filter'.shape from h]

/-- Alike filters have the same first fault. -/
theorem fault?_eq : filter.fault? = filter'.fault? := by
  rw [fault?, ← Parts.fault?_mapValues Json.blank, h.parts_eq, Parts.fault?_mapValues, fault?]

/-- The leaf conditions of alike filters differ in nothing but their values. -/
theorem leaves_eq :
    filter.leaves.map (Leaf.mapValues Json.blank) =
      filter'.leaves.map (Leaf.mapValues Json.blank) := by
  rw [leaves, ← Parts.leaves_mapValues, h.parts_eq, Parts.leaves_mapValues, leaves]

end Alike

end Filter

end PgCollections
