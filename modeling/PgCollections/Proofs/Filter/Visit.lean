import PgCollections.Proofs.Filter.Leaf

/-! # Operators in the order they are met

Going through a filter from left to right and into every conjunction meets its operators one after
the other, a conjunction before its members: `Filter.visits`.  A path without steps and a
conjunction of nothing are `Visit.Faulty`; any other operator has values of its own, none if it is a
conjunction.  The parts of a filter tell the same (`Filter.summarises_parts`): its first fault is
that of the first faulty operator, and its leaf conditions up to there have the values of the
operators met before. -/

namespace PgCollections

/-- An operator that is met on a field. -/
structure Visit where
  field : String
  op : Operator

namespace Visit

/-- The operator can have no text, whatever else is in the filter. -/
def Faulty (visit : Visit) : Prop := (∃ v, visit.op = .path [] v) ∨ visit.op = .all []

/-- What is wrong with the operator by itself. -/
def fault? (visit : Visit) : Option ValidationError :=
  match visit.op with
  | .path [] _ => some (.emptyPath visit.field)
  | .all [] => some (.emptyAnd visit.field)
  | _ => none

/-- The operator's own values in the order of their placeholders. -/
def values (visit : Visit) : List Json :=
  match visit.op with
  | .compare _ v | .any v => [v]
  | .oneOf items => items
  | .path steps v => steps ++ [v]
  | .all _ => []

/-- The values of the operators before the first faulty one. -/
def settled : List Visit → List Json
  | [] => []
  | visit :: visits =>
    match visit.fault? with
    | none => visit.values ++ settled visits
    | some _ => []

theorem faulty_iff (visit : Visit) : visit.Faulty ↔ ∃ cause, visit.fault? = some cause := by
  obtain ⟨field, op⟩ := visit
  unfold Faulty fault?
  cases op with
  | compare | any | oneOf => simp
  | path steps v => cases steps <;> simp
  | all ops => cases ops <;> simp

theorem fault?_eq_none_iff (visit : Visit) : visit.fault? = none ↔ ¬ visit.Faulty := by
  rw [faulty_iff]
  cases visit.fault? <;> simp

/-- The error says in quotes on which field the operator is. -/
theorem message_of_fault? {visit : Visit} {cause : ValidationError}
    (h : visit.fault? = some cause) :
    ∃ before after, cause.message = before ++ ("'" ++ visit.field ++ "'") ++ after := by
  have hquotes : ∀ before field after : String,
      (before ++ "'") ++ field ++ ("'" ++ after) = before ++ ("'" ++ field ++ "'") ++ after := by
    intro before field after
    simp only [String.append_assoc]
  unfold fault? at h
  split at h
  case h_1 =>
      obtain rfl := Option.some.inj h
      exact ⟨_, _, hquotes "operator 'of' on " visit.field
        " requires at least one path element, got []"⟩
  case h_2 =>
      obtain rfl := Option.some.inj h
      exact ⟨_, _, hquotes "operator 'and' on " visit.field
        " requires at least one operator, got []"⟩
  case h_3 => cases h

/-! ### Sequences of operators -/

theorem settled_append : ∀ visits more : List Visit, visits.findSome? fault? = none →
    settled (visits ++ more) = settled visits ++ settled more
  | [], _, _ => rfl
  | visit :: visits, more, h => by
      rw [List.findSome?_cons] at h
      cases hvisit : visit.fault? with
      | some cause => simp [hvisit] at h
      | none =>
          have ih := settled_append visits more (by simpa [hvisit] using h)
          simp [settled, hvisit, ih]

theorem settled_append_of_fault {cause : ValidationError} : ∀ visits more : List Visit,
    visits.findSome? fault? = some cause → settled (visits ++ more) = settled visits
  | visit :: visits, more, h => by
      rw [List.findSome?_cons] at h
      cases hvisit : visit.fault? with
      | some cause => simp [settled, hvisit]
      | none =>
          have ih := settled_append_of_fault visits more (by simpa [hvisit] using h)
          simp [settled, hvisit, ih]

theorem settled_of_sound {visits : List Visit} (h : ∀ visit ∈ visits, ¬ visit.Faulty) :
    settled visits = visits.flatMap values := by
  induction visits with
  | nil => rfl
  | cons visit visits ih =>
      have hvisit := visit.fault?_eq_none_iff.mpr (h visit List.mem_cons_self)
      have ih := ih fun v hv => h v (List.mem_cons_of_mem visit hv)
      rw [settled, hvisit, List.flatMap_cons, ih]

theorem findSome?_of_sound {visits : List Visit} (h : ∀ visit ∈ visits, ¬ visit.Faulty) :
    visits.findSome? fault? = none :=
  List.findSome?_eq_none_iff.mpr fun visit hvisit => visit.fault?_eq_none_iff.mpr (h visit hvisit)

/-- What comes before the first faulty operator is settled, and nothing of that operator or behind
it is. -/
theorem settled_first {met rest : List Visit} {visit : Visit} (h : ∀ v ∈ met, ¬ v.Faulty)
    (hvisit : visit.Faulty) : settled (met ++ visit :: rest) = met.flatMap values := by
  obtain ⟨cause, hcause⟩ := visit.faulty_iff.mp hvisit
  rw [settled_append _ _ (findSome?_of_sound h), settled_of_sound h, settled, hcause,
    List.append_nil]

theorem findSome?_first {met rest : List Visit} {visit : Visit} (h : ∀ v ∈ met, ¬ v.Faulty)
    (hvisit : visit.Faulty) : (met ++ visit :: rest).findSome? fault? = visit.fault? := by
  obtain ⟨cause, hcause⟩ := visit.faulty_iff.mp hvisit
  rw [List.findSome?_append, findSome?_of_sound h, Option.none_or, List.findSome?_cons, hcause]

theorem exists_faulty_iff (visits : List Visit) :
    (∃ visit ∈ visits, visit.Faulty) ↔ ∃ cause, visits.findSome? fault? = some cause := by
  constructor
  · rintro ⟨visit, hmem, hvisit⟩
    obtain ⟨cause, hcause⟩ := visit.faulty_iff.mp hvisit
    refine Option.isSome_iff_exists.mp (List.findSome?_isSome_iff.mpr ⟨visit, hmem, ?_⟩)
    rw [hcause]
    rfl
  · rintro ⟨cause, hcause⟩
    obtain ⟨visit, hmem, hvisit⟩ := List.exists_of_findSome?_eq_some hcause
    exact ⟨visit, hmem, visit.faulty_iff.mpr ⟨cause, hvisit⟩⟩

end Visit

/-! ### Parts -/

/-- Parts tell the same as the operators met: the first fault, and the values before it. -/
structure Parts.Summarises (parts : Parts) (visits : List Visit) : Prop where
  fault : Parts.fault? parts = visits.findSome? Visit.fault?
  values : Leaf.allValues (Parts.leaves parts) = Visit.settled visits

namespace Parts.Summarises

theorem nil : Summarises [] [] := ⟨rfl, rfl⟩

theorem append {parts more : Parts} {visits others : List Visit} (h : Summarises parts visits)
    (hmore : Summarises more others) : Summarises (parts ++ more) (visits ++ others) where
  fault := by rw [fault?_append, List.findSome?_append, h.fault, hmore.fault]
  values := by
    cases hfault : fault? parts with
    | none =>
        have hvisits := h.fault.symm.trans hfault
        rw [leaves_append _ _ hfault, Visit.settled_append _ _ hvisits, Leaf.allValues_append,
          h.values, hmore.values]
    | some cause =>
        have hvisits := h.fault.symm.trans hfault
        rw [leaves_append_of_fault _ _ hfault, Visit.settled_append_of_fault _ _ hvisits, h.values]

theorem flatMap {α : Type} {f : α → Parts} {g : α → List Visit} {as : List α}
    (h : ∀ a ∈ as, Summarises (f a) (g a)) : Summarises (as.flatMap f) (as.flatMap g) := by
  induction as with
  | nil => exact nil
  | cons a as ih =>
      have ha := h a List.mem_cons_self
      exact ha.append (ih fun a' ha' => h a' (List.mem_cons_of_mem a ha'))

/-- A leaf condition is met as the operator that has its values. -/
theorem leaf {l : Leaf} {visit : Visit} (hfault : visit.fault? = none)
    (hvalues : visit.values = l.values) : Summarises [.ok l] [visit] where
  fault := by simp [Parts.fault?, hfault]
  values := by simp [leaves, Visit.settled, hfault, hvalues]

theorem faulty {cause : ValidationError} {visit : Visit} (h : visit.fault? = some cause) :
    Summarises [.error cause] [visit] where
  fault := by simp [Parts.fault?, h]
  values := by simp [leaves, Visit.settled, h]

/-- An operator without fault and without values of its own adds nothing. -/
theorem cons {parts : Parts} {visits : List Visit} {visit : Visit} (h : Summarises parts visits)
    (hfault : visit.fault? = none) (hvalues : visit.values = []) :
    Summarises parts (visit :: visits) where
  fault := by rw [h.fault, List.findSome?_cons, hfault]
  values := by rw [h.values, Visit.settled, hfault, hvalues, List.nil_append]

end Parts.Summarises

/-! ### Filters -/

namespace Operator

mutual

/-- The operators met on the way through an operator on a field. -/
def visits (field : String) : Operator → List Visit
  | .all ops => ⟨field, .all ops⟩ :: visitsOfAll field ops
  | op => [⟨field, op⟩]

def visitsOfAll (field : String) : List Operator → List Visit
  | [] => []
  | op :: ops => visits field op ++ visitsOfAll field ops

end

theorem visitsOfAll_eq_flatMap (field : String) (ops : List Operator) :
    visitsOfAll field ops = ops.flatMap (visits field) := by
  induction ops with
  | nil => rfl
  | cons op ops ih => rw [visitsOfAll, ih, List.flatMap_cons]

theorem summarises_parts (field : String) (op : Operator) :
    Parts.Summarises (parts field op) (visits field op) := by
  induction op using Operator.induction with
  | compare c v => exact .leaf rfl rfl
  | any v => exact .leaf rfl rfl
  | oneOf items => cases items <;> exact .leaf rfl rfl
  | path steps v =>
      rw [parts, visits, pathPart]
      · cases hlast : steps.getLast? with
        | none =>
            obtain rfl := List.getLast?_eq_none_iff.mp hlast
            exact .faulty rfl
        | some last =>
            have hsteps : steps.dropLast ++ [last] = steps :=
              List.dropLast_append_getLast? last hlast
            refine .leaf ?_ ?_
            · rw [Visit.fault?_eq_none_iff]
              rintro (⟨w, hw⟩ | hall)
              · cases hw
                cases hlast
              · cases hall
            · change steps ++ [v] = steps.dropLast ++ [last, v]
              rw [List.append_cons steps.dropLast last [v], hsteps]
      · intro ops h
        cases h
  | all ops ih =>
      cases ops with
      | nil => exact .faulty rfl
      | cons op ops =>
          simp only [parts, visits, List.isEmpty_cons, Bool.false_eq_true, if_false]
          rw [partsOfAll_eq_flatMap, visitsOfAll_eq_flatMap]
          exact (Parts.Summarises.flatMap ih).cons rfl rfl

end Operator

/-- The operators met on the way through a condition; a plain value is met as a comparison. -/
def Condition.visits (field : String) : Condition → List Visit
  | .value v => [⟨field, .compare .eq v⟩]
  | .operator op => op.visits field

theorem Condition.summarises_parts (field : String) (condition : Condition) :
    Parts.Summarises (condition.parts field) (condition.visits field) := by
  cases condition with
  | value v => exact .leaf rfl rfl
  | operator op => exact op.summarises_parts field

namespace Filter

/-- The operators met on the way through a filter. -/
def visits (filter : Filter) : List Visit :=
  filter.entries.flatMap fun (field, condition) => condition.visits field

theorem summarises_parts (filter : Filter) : Parts.Summarises filter.parts filter.visits :=
  .flatMap fun (field, condition) _ => condition.summarises_parts field

end Filter

end PgCollections
