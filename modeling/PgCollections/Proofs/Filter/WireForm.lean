import PgCollections.Proofs.Filter.Leaf
import PgCollections.Proofs.Traversal

/-! # The wire form of a filter

`Operator.WireForm op v` says that a JSON value is a wire form of an operator, by what its members
contain; members with other names do not matter.  `Operator.toJson` is the wire form with no such
member.

What an operator object says by itself is its `Operator.Head`: an operator, or the items of a
conjunction that are still to be read.  The definition of the decoder is opened for
`Operator.ofJson_eq` only; `Operator.ofJson_eq_ok_iff` follows from it by induction on the operator,
and `Filter.ofJson_eq_ok_iff` says the same of filters. -/

namespace PgCollections

/-- The operand in the members of an operator object, null when it is missing. -/
def Json.operand (fields : List (String × Json)) : Json := (Keyed.get? fields "val").getD .null

namespace Comparison

/-- The comparisons by their names in wire forms. -/
def table : List (String × Comparison) :=
  [("eq", eq), ("lte", lte), ("lt", lt), ("gte", gte), ("gt", gt), ("like", like)]

theorem mem_table_iff {tag : String} {c : Comparison} : (tag, c) ∈ table ↔ tag = c.tag := by
  cases c <;> simp [table, Comparison.tag]

theorem ofTag?_eq_some_iff {tag : String} {c : Comparison} :
    ofTag? tag = some c ↔ (tag, c) ∈ table := by
  rw [mem_table_iff]
  constructor
  · unfold ofTag?
    intro h
    split at h <;> cases h <;> rfl
  · rintro rfl
    cases c <;> rfl

end Comparison

namespace Operator

/-! ### Heads -/

/-- What an operator object says by itself. -/
inductive Head where
  | complete (op : Operator)
  /-- The items of a conjunction, which are still to be read. -/
  | conjunction (items : List Json)

namespace Head

def ofTag (tag : String) (val : Json) : Except DbError Head :=
  match tag, val with
  | "any", v => .ok (.complete (.any v))
  | "in", .array items => .ok (.complete (.oneOf items))
  | "in", v => .error (.validation (.inNeedsList v))
  | "of", .object fields =>
    match Keyed.get? fields "path" with
    | some (.array steps) =>
      .ok (.complete (.path steps ((Keyed.get? fields "value").getD .null)))
    | _ => .error (.validation .ofNeedsPath)
  | "of", _ => .error (.validation .ofNeedsObject)
  | "and", .array items => .ok (.conjunction items)
  | "and", _ => .error (.validation .andNeedsList)
  | tag, v =>
    match Comparison.ofTag? tag with
    | some c => .ok (.complete (.compare c v))
    | none => .error (.unsupportedOperator tag)

def ofJson : Json → Except DbError Head
  | .object fields =>
    match Keyed.get? fields "op" with
    | some (.string tag) => ofTag tag (Json.operand fields)
    | some other => .error (.unsupportedOperator other.text)
    | none => .error (.validation .missingOp)
  | other => .error (.validation (.operatorNotObject other))

/-- Reads what is still to be read. -/
def finish : Head → Except DbError Operator
  | complete op => .ok op
  | conjunction items => (items.mapM Operator.ofJson).map .all

end Head

theorem ofList_eq_mapM (items : List Json) : ofList items = items.mapM ofJson := by
  induction items with
  | nil => rw [ofList, List.mapM_nil]; rfl
  | cons v items ih => rw [ofList, List.mapM_cons, ih]

theorem ofTag_eq (tag : String) (val : Json) :
    ofTag tag val = (Head.ofTag tag val).bind Head.finish := by
  unfold ofTag
  split
  case h_1 | h_2 => rfl
  case h_3 | h_5 | h_7 => simp [Head.ofTag, Except.bind]
  case h_4 operand =>
      simp only [Head.ofTag]
      split <;> simp_all [Except.bind, Head.finish]
  case h_6 items =>
      rw [ofList_eq_mapM]
      rfl
  case h_8 =>
      simp only [Head.ofTag]
      cases Comparison.ofTag? tag <;> rfl

theorem ofJson_eq (v : Json) : ofJson v = (Head.ofJson v).bind Head.finish := by
  cases v with
  | object fields =>
      simp only [ofJson, Head.ofJson]
      cases Keyed.get? fields "op" with
      | none => rfl
      | some op => cases op with
        | string tag => exact ofTag_eq tag (Json.operand fields)
        | null | bool | number | array | object => rfl
  | null | bool | number | string | array => simp [ofJson, Head.ofJson, Except.bind]

/-! ### Wire forms -/

/-- The value is a wire form of the operator. -/
inductive WireForm : Operator → Json → Prop where
  | compare {fields : List (String × Json)} {tag : String} {c : Comparison}
      (htag : (tag, c) ∈ Comparison.table) (hop : Keyed.get? fields "op" = some (.string tag)) :
      WireForm (.compare c (Json.operand fields)) (.object fields)
  | any {fields : List (String × Json)} (hop : Keyed.get? fields "op" = some (.string "any")) :
      WireForm (.any (Json.operand fields)) (.object fields)
  | oneOf {fields : List (String × Json)} {items : List Json}
      (hop : Keyed.get? fields "op" = some (.string "in"))
      (hval : Json.operand fields = .array items) : WireForm (.oneOf items) (.object fields)
  | path {fields operand : List (String × Json)} {steps : List Json}
      (hop : Keyed.get? fields "op" = some (.string "of"))
      (hval : Json.operand fields = .object operand)
      (hpath : Keyed.get? operand "path" = some (.array steps)) :
      WireForm (.path steps ((Keyed.get? operand "value").getD .null)) (.object fields)
  | all {fields : List (String × Json)} {items : List Json} {ops : List Operator}
      (hop : Keyed.get? fields "op" = some (.string "and"))
      (hval : Json.operand fields = .array items)
      (hitems : List.Forall₂ WireForm ops items) : WireForm (.all ops) (.object fields)

/-- A wire form is an object with a tag. -/
theorem WireForm.exists_tag {op : Operator} {v : Json} (h : op.WireForm v) :
    ∃ fields tag, v = .object fields ∧ Keyed.get? fields "op" = some (.string tag) := by
  cases h <;> exact ⟨_, _, rfl, ‹_›⟩

namespace Head

/-- A head is read from an object with a tag. -/
theorem exists_tag {v : Json} {head : Head} (h : ofJson v = .ok head) :
    ∃ fields tag, v = .object fields ∧ Keyed.get? fields "op" = some (.string tag) ∧
      ofTag tag (Json.operand fields) = .ok head := by
  unfold ofJson at h
  split at h
  case h_1 fields =>
      split at h
      case h_1 tag hop => exact ⟨fields, tag, rfl, hop, h⟩
      case h_2 => cases h
      case h_3 => cases h
  case h_2 => cases h

theorem wireForm_of_complete {v : Json} {op : Operator} (h : ofJson v = .ok (.complete op)) :
    op.WireForm v := by
  obtain ⟨fields, tag, rfl, hop, htag⟩ := exists_tag h
  generalize hval : Json.operand fields = val at htag
  unfold ofTag at htag
  split at htag
  case h_1 => cases htag; exact hval ▸ .any hop
  case h_2 items => cases htag; exact .oneOf hop hval
  case h_4 operand =>
      split at htag
      case h_1 steps hpath => cases htag; exact .path hop hval hpath
      case h_2 => cases htag
  case h_8 =>
      split at htag
      case h_1 c hc =>
          cases htag
          exact hval ▸ .compare (Comparison.ofTag?_eq_some_iff.mp hc) hop
      case h_2 => cases htag
  all_goals cases htag

theorem eq_of_conjunction {v : Json} {items : List Json}
    (h : ofJson v = .ok (.conjunction items)) :
    ∃ fields, v = .object fields ∧ Keyed.get? fields "op" = some (.string "and") ∧
      Json.operand fields = .array items := by
  obtain ⟨fields, tag, rfl, hop, htag⟩ := exists_tag h
  generalize hval : Json.operand fields = val at htag
  unfold ofTag at htag
  split at htag
  case h_6 => cases htag; exact ⟨fields, rfl, hop, hval⟩
  case h_4 => split at htag <;> cases htag
  case h_8 => split at htag <;> cases htag
  all_goals cases htag

/-- A wire form has a complete head, or the head of a conjunction of wire forms. -/
theorem ofJson_of_wireForm {op : Operator} {v : Json} (h : op.WireForm v) :
    ofJson v = .ok (.complete op) ∨
      ∃ items ops, ofJson v = .ok (.conjunction items) ∧ List.Forall₂ WireForm ops items ∧
        op = .all ops := by
  cases h with
  | @compare fields tag c htag hop =>
      obtain rfl := Comparison.mem_table_iff.mp htag
      have hhead : ofTag c.tag (Json.operand fields) =
          .ok (.complete (.compare c (Json.operand fields))) := by
        cases c <;> rfl
      simp [ofJson, hop, hhead]
  | any hop => simp [ofJson, hop, ofTag]
  | oneOf hop hval => simp [ofJson, hop, hval, ofTag]
  | path hop hval hpath => simp [ofJson, hop, hval, ofTag, hpath]
  | @all fields items ops hop hval hitems =>
      exact .inr ⟨items, ops, by simp [ofJson, hop, hval, ofTag], hitems, rfl⟩

end Head

/-- What is read is said by the head, or the head is a conjunction and all of its items are read. -/
theorem head_of_ofJson {v : Json} {op : Operator} (h : ofJson v = .ok op) :
    Head.ofJson v = .ok (.complete op) ∨
      ∃ items ops, Head.ofJson v = .ok (.conjunction items) ∧
        List.Forall₂ (fun item member => ofJson item = .ok member) items ops ∧ op = .all ops := by
  rw [ofJson_eq] at h
  match hhead : Head.ofJson v with
  | .error e => rw [hhead] at h; cases h
  | .ok (.complete op') => rw [hhead] at h; cases h; exact .inl rfl
  | .ok (.conjunction items) =>
      rw [hhead] at h
      simp only [Except.bind, Head.finish] at h
      cases hitems : items.mapM ofJson with
      | error e => rw [hitems] at h; cases h
      | ok ops =>
          rw [hitems] at h
          cases h
          exact .inr ⟨items, ops, rfl, mapM_eq_ok_iff.mp hitems, rfl⟩

/-- If members are read from their wire forms only, so are lists of them. -/
theorem forall₂_wireForm_iff {ops : List Operator} {items : List Json}
    (h : ∀ op ∈ ops, ∀ v, ofJson v = .ok op ↔ op.WireForm v) :
    List.Forall₂ (fun item op => ofJson item = .ok op) items ops ↔
      List.Forall₂ WireForm ops items := by
  induction ops generalizing items with
  | nil => simp
  | cons op ops ih =>
      have hops : ∀ op' ∈ ops, ∀ v, ofJson v = .ok op' ↔ op'.WireForm v :=
        fun op' hop' => h op' (List.mem_cons_of_mem op hop')
      cases items with
      | nil => simp
      | cons item items => simp [h op List.mem_cons_self item, ih hops]

/-- An operator is read from its wire forms and from nothing else. -/
theorem ofJson_eq_ok_iff {op : Operator} {v : Json} : ofJson v = .ok op ↔ op.WireForm v := by
  -- Only a conjunction has operators below it; all others are read with their heads.
  induction op using Operator.induction generalizing v with
  | all ops ih =>
      have hmembers (items : List Json) :
          List.Forall₂ (fun item op => ofJson item = .ok op) items ops ↔
            List.Forall₂ WireForm ops items :=
        forall₂_wireForm_iff fun op hop _ => ih op hop
      constructor
      · intro h
        obtain hcomplete | ⟨items, ops', hhead, hitems, heq⟩ := head_of_ofJson h
        · exact Head.wireForm_of_complete hcomplete
        · cases heq
          obtain ⟨fields, rfl, hop, hval⟩ := Head.eq_of_conjunction hhead
          exact .all hop hval ((hmembers items).mp hitems)
      · intro h
        obtain hhead | ⟨items, ops', hhead, hitems, heq⟩ := Head.ofJson_of_wireForm h
        · rw [ofJson_eq, hhead]
          rfl
        · cases heq
          have hread := mapM_eq_ok_iff.mpr ((hmembers items).mpr hitems)
          rw [ofJson_eq, hhead]
          simp only [Except.bind, Head.finish, hread, Except.map]
  | compare | any | oneOf | path =>
      constructor
      · intro h
        obtain hcomplete | ⟨_, _, _, _, heq⟩ := head_of_ofJson h
        · exact Head.wireForm_of_complete hcomplete
        · cases heq
      · intro h
        obtain hhead | ⟨_, _, _, _, heq⟩ := Head.ofJson_of_wireForm h
        · rw [ofJson_eq, hhead]
          rfl
        · cases heq

/-! ### Encoding -/

/-- The members of an operator object, with nothing but a tag and an operand. -/
def members (tag : String) (operand : Json) : List (String × Json) :=
  [("op", .string tag), ("val", operand)]

mutual

/-- What stands under `val` in the wire form. -/
def operand : Operator → Json
  | .compare _ v | .any v => v
  | .oneOf items => .array items
  | .path steps v => .object [("path", .array steps), ("value", v)]
  | .all ops => .array (itemsOfAll ops)

def itemsOfAll : List Operator → List Json
  | [] => []
  | op :: ops => .object (members op.tag (operand op)) :: itemsOfAll ops

end

def toJson (op : Operator) : Json := .object (members op.tag op.operand)

theorem itemsOfAll_eq_map (ops : List Operator) : itemsOfAll ops = ops.map toJson := by
  induction ops with
  | nil => rfl
  | cons op ops ih => rw [itemsOfAll, ih, List.map_cons, toJson]

theorem wireForm_toJson (op : Operator) : op.WireForm op.toJson := by
  induction op using Operator.induction with
  | compare c v =>
      have htag := Comparison.mem_table_iff.mpr (rfl : c.tag = c.tag)
      exact @WireForm.compare (members c.tag v) c.tag c htag rfl
  | any v => exact @WireForm.any (members "any" v) rfl
  | oneOf items => exact .oneOf rfl rfl
  | path steps v =>
      exact @WireForm.path (members "of" _) [("path", .array steps), ("value", v)] steps rfl rfl rfl
  | all ops ih =>
      refine .all rfl (congrArg Json.array (itemsOfAll_eq_map ops)) ?_
      rw [List.forall₂_map_right_iff]
      exact List.forall₂_same.mpr ih

end Operator

/-! ### Conditions -/

namespace Condition

/-- A plain value is itself, if it is not an object. -/
def WireForm : Condition → Json → Prop
  | value w, v => v = w ∧ v.asObject? = none
  | operator op, v => op.WireForm v

def toJson : Condition → Json
  | value v => v
  | operator op => op.toJson

/-- A plain value is not an object, which would be read as an operator. -/
def Plain : Condition → Prop
  | value v => v.asObject? = none
  | operator _ => True

theorem wireForm_toJson {condition : Condition} (h : condition.Plain) :
    condition.WireForm condition.toJson := by
  cases condition with
  | value v => exact ⟨rfl, h⟩
  | operator op => exact op.wireForm_toJson

end Condition

/-! ### Filters -/

namespace Filter

/-- A condition is read from its wire forms and from nothing else. -/
theorem conditionOfJson_eq_ok_iff {field : String} {v : Json} {condition : Condition} :
    conditionOfJson field v = .ok condition ↔ condition.WireForm v := by
  cases v with
  | object fields =>
      rw [conditionOfJson]
      split_ifs with hop
      · cases condition with
        | value w =>
            cases Operator.ofJson (.object fields) <;>
              simp [Except.map, Condition.WireForm, Json.asObject?]
        | operator op =>
            rw [Condition.WireForm, ← Operator.ofJson_eq_ok_iff]
            cases Operator.ofJson (.object fields) <;> simp [Except.map]
      · refine iff_of_false (by simp) fun hform => ?_
        cases condition with
        | value w => cases hform.2
        | operator op =>
            obtain ⟨_, tag, heq, htag⟩ := Operator.WireForm.exists_tag hform
            cases heq
            simp [htag] at hop
  | null | bool | number | string | array =>
      cases condition with
      | value w => simp [conditionOfJson, Condition.WireForm, Json.asObject?, eq_comm]
      | operator op =>
          refine iff_of_false (by simp [conditionOfJson]) fun hform => ?_
          obtain ⟨_, _, heq, -⟩ := Operator.WireForm.exists_tag hform
          cases heq

/-- No field has two conditions, as is the case in every filter, however it came about. -/
def Distinct (filter : Filter) : Prop := (Keyed.keys filter.entries).Nodup

theorem distinct_empty : empty.Distinct := List.nodup_nil

theorem Distinct.withCondition {filter : Filter} (h : filter.Distinct) (field : String)
    (condition : Condition) : (filter.withCondition field condition).Distinct :=
  Keyed.nodup_keys_insert h field condition

theorem Distinct.arraysAsOneOf {filter : Filter} (h : filter.Distinct) :
    filter.arraysAsOneOf.Distinct := by
  simpa [Distinct, Filter.arraysAsOneOf, Keyed.keys, Function.comp_def] using h

def toJson (filter : Filter) : Json :=
  .object (filter.entries.map fun entry => (entry.1, entry.2.toJson))

/-- Reads the condition of a member. -/
def memberOfJson (member : String × Json) : Except DbError (String × Condition) :=
  (conditionOfJson member.1 member.2).map (member.1, ·)

theorem memberOfJson_eq_ok_iff {member : String × Json} {entry : String × Condition} :
    memberOfJson member = .ok entry ↔ entry.1 = member.1 ∧ entry.2.WireForm member.2 := by
  obtain ⟨field, condition⟩ := entry
  rw [← @conditionOfJson_eq_ok_iff member.1, memberOfJson]
  cases conditionOfJson member.1 member.2 <;> simp [Except.map, eq_comm]

/-- The conditions are read one by one. -/
theorem foldlM_withCondition (fields : List (String × Json)) (filter : Filter) :
    fields.foldlM (fun filter (field, v) =>
        (conditionOfJson field v).map (filter.withCondition field)) filter =
      (fields.mapM memberOfJson).map fun entries : List (String × Condition) =>
        (⟨entries.foldl (fun entries pair => Keyed.insert entries pair.1 pair.2)
          filter.entries⟩ : Filter) := by
  induction fields generalizing filter with
  | nil => rfl
  | cons member fields ih =>
      obtain ⟨field, v⟩ := member
      rw [List.foldlM_cons, List.mapM_cons, memberOfJson]
      dsimp only
      cases conditionOfJson field v with
      | error e => rfl
      | ok condition =>
          refine (ih (filter.withCondition field condition)).trans ?_
          dsimp only [Except.map, bind, Except.bind]
          cases fields.mapM memberOfJson <;> rfl

/-- A field that occurs again gets the later condition. -/
theorem ofJson_object (fields : List (String × Json)) :
    ofJson (.object fields) =
      (fields.mapM memberOfJson).map fun entries => ⟨Keyed.ofList entries⟩ :=
  foldlM_withCondition fields .empty

/-- The members of the value are wire forms of conditions, and of two conditions of one field the
later counts. -/
def WireForm (filter : Filter) (v : Json) : Prop :=
  ∃ (fields : List (String × Json)) (entries : List (String × Condition)), v = .object fields ∧
    List.Forall₂ (fun member entry => entry.1 = member.1 ∧ entry.2.WireForm member.2)
      fields entries ∧
    filter.entries = Keyed.ofList entries

/-- A filter is read from its wire forms and from nothing else. -/
theorem ofJson_eq_ok_iff {filter : Filter} {v : Json} :
    ofJson v = .ok filter ↔ filter.WireForm v := by
  have hmembers (fields : List (String × Json)) (entries : List (String × Condition)) :
      fields.mapM memberOfJson = .ok entries ↔
        List.Forall₂ (fun member entry => entry.1 = member.1 ∧ entry.2.WireForm member.2)
          fields entries := by
    simp only [mapM_eq_ok_iff, memberOfJson_eq_ok_iff]
  constructor
  · intro h
    cases v with
    | object fields =>
        rw [ofJson_object] at h
        cases hentries : fields.mapM memberOfJson with
        | error e => rw [hentries] at h; cases h
        | ok entries =>
            rw [hentries] at h
            cases h
            exact ⟨fields, entries, rfl, (hmembers fields entries).mp hentries, rfl⟩
    | null | bool | number | string | array => cases h
  · rintro ⟨fields, entries, rfl, hforms, hentries⟩
    rw [ofJson_object, (hmembers fields entries).mpr hforms, Except.map, ← hentries]

theorem distinct_of_ofJson {v : Json} {filter : Filter} (h : ofJson v = .ok filter) :
    filter.Distinct := by
  obtain ⟨fields, entries, -, -, hentries⟩ := ofJson_eq_ok_iff.mp h
  rw [Distinct, hentries]
  exact Keyed.nodup_keys_ofList entries

theorem wireForm_toJson {filter : Filter} (hdistinct : filter.Distinct)
    (hplain : ∀ entry ∈ filter.entries, entry.2.Plain) : filter.WireForm filter.toJson := by
  refine ⟨_, filter.entries, rfl, ?_, (Keyed.ofList_of_nodup hdistinct).symm⟩
  rw [List.forall₂_map_left_iff]
  refine List.forall₂_same.mpr fun entry hentry => ⟨rfl, ?_⟩
  exact Condition.wireForm_toJson (hplain entry hentry)

/-- The wire forms of filters are the objects whose every member is no object or an operator. -/
theorem exists_wireForm_iff {v : Json} :
    (∃ filter : Filter, filter.WireForm v) ↔ ∃ fields, v = .object fields ∧
      ∀ member ∈ fields, member.2.asObject? = none ∨ ∃ op : Operator, op.WireForm member.2 := by
  constructor
  · rintro ⟨filter, fields, entries, rfl, hforms, -⟩
    refine ⟨fields, rfl, fun member hmember => ?_⟩
    obtain ⟨⟨field, condition⟩, -, hform⟩ :=
      exists_forall₂_iff.mp ⟨entries, hforms⟩ member hmember
    cases condition with
    | value w => exact .inl hform.2
    | operator op => exact .inr ⟨op, hform⟩
  · rintro ⟨fields, rfl, hmembers⟩
    have hentries : ∀ member ∈ fields, ∃ entry : String × Condition,
        entry.1 = member.1 ∧ entry.2.WireForm member.2 := by
      intro member hmember
      obtain hplain | ⟨op, hop⟩ := hmembers member hmember
      · exact ⟨(member.1, .value member.2), rfl, rfl, hplain⟩
      · exact ⟨(member.1, .operator op), rfl, hop⟩
    obtain ⟨entries, hforms⟩ := exists_forall₂_iff.mpr hentries
    exact ⟨⟨Keyed.ofList entries⟩, fields, entries, rfl, hforms, rfl⟩

end Filter

end PgCollections
