import PgCollections.Proofs.Filter.WireForm

/-! # Faults of a filter document

A document is read in the order of its text: the filter, then each member, and below a member the
items of its conjunctions.  `Filter.nodes` lists these nodes, and `Node.fault?` is what is wrong
with a node by itself.  The first node with a fault decides the error
(`Filter.ofJson_eq_error_iff`); for operators that is an induction on the document
(`Operator.ofJson_eq_error_iff`).  The nodes without a fault are the `Good` ones, whose tag is known
and whose operand is what the tag needs (`Node.fault?_cases`).  The main statement is
`Filter.wire_format_exact`. -/

namespace PgCollections

namespace Json

theorem exists_fields_of_field? {v w : Json} {name : String} (h : v.field? name = some w) :
    ∃ fields, v = .object fields ∧ Keyed.get? fields name = some w := by
  cases v with
  | object fields => exact ⟨fields, rfl, h⟩
  | null | bool | number | string | array => cases h

/-- The items of a conjunction. -/
def items : Json → List Json
  | .object fields =>
    match Keyed.get? fields "op", operand fields with
    | some (.string "and"), .array items => items
    | _, _ => []
  | _ => []

theorem sizeOf_lt_of_mem_items {item v : Json} (h : item ∈ v.items) : sizeOf item < sizeOf v := by
  unfold items at h
  split at h
  case h_1 fields =>
      split at h
      case h_1 items _ hval =>
          have hitem := List.sizeOf_lt_of_mem h
          have hoperand := sizeOf_getD_lt fields "val"
          rw [operand] at hval
          rw [hval, array.sizeOf_spec] at hoperand
          omega
      case h_2 => cases h
  case h_2 => cases h

/-- The operator objects below this one. -/
def descendants (v : Json) : List Json :=
  v.items.attach.flatMap fun item => item.1 :: descendants item.1
termination_by sizeOf v
decreasing_by exact sizeOf_lt_of_mem_items item.2

theorem descendants_eq (v : Json) :
    v.descendants = v.items.flatMap fun item => item :: item.descendants := by
  rw [descendants]
  simp [List.flatMap_subtype]

end Json

namespace Operator

/-- What is wrong with an operator object by itself. -/
def fault? (v : Json) : Option DbError :=
  match Head.ofJson v with
  | .ok _ => none
  | .error e => some e

theorem items_of_complete {v : Json} {op : Operator} (h : Head.ofJson v = .ok (.complete op)) :
    v.items = [] := by
  obtain ⟨fields, tag, rfl, hop, htag⟩ := Head.exists_tag h
  rw [Json.items]
  split
  case h_1 items hop' hval =>
      rw [hop] at hop'
      cases hop'
      rw [hval] at htag
      cases htag
  case h_2 => rfl

theorem items_of_conjunction {v : Json} {items : List Json}
    (h : Head.ofJson v = .ok (.conjunction items)) : v.items = items := by
  obtain ⟨fields, rfl, hop, hval⟩ := Head.eq_of_conjunction h
  simp only [Json.items, hop, hval]

/-- Reading an operator ends with the first fault in the order of the text. -/
theorem ofJson_eq_error_iff (v : Json) {e : DbError} :
    ofJson v = .error e ↔ (v :: v.descendants).findSome? fault? = some e := by
  rw [ofJson_eq, List.findSome?_cons, fault?]
  cases hhead : Head.ofJson v with
  | error e' => simp [Except.bind]
  | ok head => cases head with
    | complete op =>
        rw [Json.descendants_eq, items_of_complete hhead]
        simp [Except.bind, Head.finish]
    | conjunction items =>
        have hitems := items_of_conjunction hhead
        -- Each item is read on its own, and is smaller than the conjunction.
        have ih : ∀ item ∈ items, ∀ e, ofJson item = .error e ↔
            (item :: item.descendants).findSome? fault? = some e := by
          intro item hitem e
          have hlt := Json.sizeOf_lt_of_mem_items (hitems.symm ▸ hitem)
          exact ofJson_eq_error_iff item
        rw [Json.descendants_eq, hitems]
        dsimp only
        rw [findSome?_flatMap, ← mapM_eq_error_iff ih]
        cases hread : items.mapM ofJson <;> simp [Except.bind, Head.finish, hread, Except.map]
termination_by sizeOf v

end Operator

/-! ### Good operator objects -/

namespace Operator

/-- The names of the operators. -/
def tags : List String := ["eq", "any", "in", "lte", "lt", "gte", "gt", "like", "of", "and"]

/-- The operand is what the operator needs. -/
def Fits (tag : String) (val : Json) : Prop :=
  (tag = "in" ∨ tag = "and" → ∃ items, val = .array items) ∧
    (tag = "of" → ∃ fields steps, val = .object fields ∧
      Keyed.get? fields "path" = some (.array steps))

/-- The operator object is as it should be, whatever the items of a conjunction are. -/
def Good (v : Json) : Prop :=
  ∃ tag ∈ tags, v.field? "op" = some (.string tag) ∧ Fits tag ((v.field? "val").getD .null)

/-- What the value has under `op` is not the name of an operator. -/
def Unknown (v : Json) : Prop :=
  ∃ op, v.field? "op" = some op ∧ ∀ tag ∈ tags, op ≠ .string tag

/-- The error is of the kind that the value calls for. -/
def Explains (e : DbError) (v : Json) : Prop :=
  (Unknown v ∧ ∃ text, e = .unsupportedOperator text) ∨
    (¬ Unknown v ∧ ∃ cause, e = .validation cause)

/-- The tag is known and the operand fits, or the operand does not fit, or the tag is unknown. -/
theorem Head.ofTag_cases (tag : String) (val : Json) :
    (tag ∈ tags ∧ Fits tag val ∧ ∃ head, Head.ofTag tag val = .ok head) ∨
      (tag ∈ tags ∧ ¬ Fits tag val ∧ ∃ cause, Head.ofTag tag val = .error (.validation cause)) ∨
      (tag ∉ tags ∧ Head.ofTag tag val = .error (.unsupportedOperator tag)) := by
  unfold Head.ofTag
  split
  case h_1 v => exact .inl ⟨by decide, by simp [Fits], _, rfl⟩
  case h_2 items => exact .inl ⟨by decide, by simp [Fits], _, rfl⟩
  case h_3 v hv => exact .inr (.inl ⟨by decide, by simpa [Fits] using hv, _, rfl⟩)
  case h_4 fields =>
      split
      case h_1 steps hpath => exact .inl ⟨by decide, by simp [Fits, hpath], _, rfl⟩
      case h_2 hpath => exact .inr (.inl ⟨by decide, by simpa [Fits] using hpath, _, rfl⟩)
  case h_5 v hv =>
      refine .inr (.inl ⟨by decide, fun hfits => ?_, _, rfl⟩)
      obtain ⟨fields, _, heq, -⟩ := hfits.2 rfl
      exact hv fields heq
  case h_6 items => exact .inl ⟨by decide, by simp [Fits], _, rfl⟩
  case h_7 v hv => exact .inr (.inl ⟨by decide, by simpa [Fits] using hv, _, rfl⟩)
  case h_8 hany hin hof hand _ _ _ =>
      -- What is left are the comparisons, which take any operand, and the unknown tags.
      have hfits : Fits tag val := ⟨fun h => (h.elim hin hand).elim, fun h => (hof h).elim⟩
      cases hc : Comparison.ofTag? tag with
      | some c =>
          have htag : tag ∈ tags := by
            obtain rfl := Comparison.mem_table_iff.mp (Comparison.ofTag?_eq_some_iff.mp hc)
            cases c <;> decide
          exact .inl ⟨htag, hfits, _, rfl⟩
      | none =>
          refine .inr (.inr ⟨fun htag => ?_, rfl⟩)
          have hcomparison : tag ∈ ["eq", "lte", "lt", "gte", "gt", "like"] := by
            simpa [tags, iff_false_intro hany, iff_false_intro hin, iff_false_intro hof,
              iff_false_intro hand] using htag
          simp only [List.mem_cons, List.not_mem_nil, or_false] at hcomparison
          rcases hcomparison with rfl | rfl | rfl | rfl | rfl | rfl <;> cases hc

theorem good_iff {v : Json} {tag : String} (hop : v.field? "op" = some (.string tag)) :
    Good v ↔ tag ∈ tags ∧ Fits tag ((v.field? "val").getD .null) := by
  constructor
  · rintro ⟨tag', htag, hop', hfits⟩
    rw [hop] at hop'
    cases hop'
    exact ⟨htag, hfits⟩
  · rintro ⟨htag, hfits⟩
    exact ⟨tag, htag, hop, hfits⟩

theorem unknown_iff {v : Json} {tag : String} (hop : v.field? "op" = some (.string tag)) :
    Unknown v ↔ tag ∉ tags := by
  constructor
  · rintro ⟨op, hop', hunknown⟩ htag
    rw [hop] at hop'
    cases hop'
    exact hunknown tag htag rfl
  · intro htag
    refine ⟨_, hop, fun tag' htag' heq => ?_⟩
    cases heq
    exact htag htag'

theorem not_good_of_noOp {v : Json} (hop : v.field? "op" = none) : ¬ Good v ∧ ¬ Unknown v := by
  simp [Good, Unknown, hop]

theorem fault?_of_noOp {v : Json} (hop : v.field? "op" = none) :
    ∃ cause, fault? v = some (.validation cause) := by
  cases v with
  | object fields =>
      have hget : Keyed.get? fields "op" = none := hop
      exact ⟨.missingOp, by simp only [fault?, Head.ofJson, hget]⟩
  | null | bool | number | string | array => exact ⟨_, rfl⟩

theorem fault?_of_otherOp {v op : Json} (hop : v.field? "op" = some op)
    (hother : ∀ tag, op ≠ .string tag) : fault? v = some (.unsupportedOperator op.text) := by
  obtain ⟨fields, rfl, hget⟩ := Json.exists_fields_of_field? hop
  cases op with
  | string tag => exact absurd rfl (hother tag)
  | null | bool | number | array | object => simp only [fault?, Head.ofJson, hget]

theorem fault?_of_tag {v : Json} {tag : String} (hop : v.field? "op" = some (.string tag)) :
    fault? v = match Head.ofTag tag ((v.field? "val").getD .null) with
      | .ok _ => none
      | .error e => some e := by
  obtain ⟨fields, rfl, hget⟩ := Json.exists_fields_of_field? hop
  simp only [fault?, Head.ofJson, hget]
  rfl

/-- A good operator object has no fault, and the fault of any other one is explained. -/
theorem fault?_cases (v : Json) :
    (Good v ∧ fault? v = none) ∨ (¬ Good v ∧ ∃ e, fault? v = some e ∧ Explains e v) := by
  cases hop : v.field? "op" with
  | none =>
      obtain ⟨cause, hfault⟩ := fault?_of_noOp hop
      obtain ⟨hgood, hunknown⟩ := not_good_of_noOp hop
      exact .inr ⟨hgood, _, hfault, .inr ⟨hunknown, cause, rfl⟩⟩
  | some op =>
      by_cases htag : ∃ tag, op = .string tag
      · obtain ⟨tag, rfl⟩ := htag
        rw [fault?_of_tag hop, good_iff hop]
        obtain ⟨htag, hfits, head, hhead⟩ | ⟨htag, hfits, cause, hhead⟩ | ⟨htag, hhead⟩ :=
          Head.ofTag_cases tag ((v.field? "val").getD .null)
        · exact .inl ⟨⟨htag, hfits⟩, by rw [hhead]⟩
        · have hunknown : ¬ Unknown v := fun h => (unknown_iff hop).mp h htag
          exact .inr ⟨fun h => hfits h.2, _, by rw [hhead], .inr ⟨hunknown, cause, rfl⟩⟩
        · have hunknown : Unknown v := (unknown_iff hop).mpr htag
          exact .inr ⟨fun h => htag h.1, _, by rw [hhead], .inl ⟨hunknown, tag, rfl⟩⟩
      · have hother : ∀ tag, op ≠ .string tag := fun tag h => htag ⟨tag, h⟩
        have hgood : ¬ Good v := by
          rintro ⟨tag, -, hop', -⟩
          exact hother tag (Option.some.inj (hop.symm.trans hop'))
        have hunknown : Unknown v := ⟨op, hop, fun tag _ => hother tag⟩
        exact .inr ⟨hgood, _, fault?_of_otherOp hop hother, .inl ⟨hunknown, op.text, rfl⟩⟩

end Operator

/-! ### Documents -/

namespace Filter

/-- A place in the document of a filter. -/
inductive Node where
  | filter (v : Json)
  | member (field : String) (v : Json)
  /-- An item of a conjunction. -/
  | item (v : Json)

namespace Node

/-- What is wrong with the node by itself. -/
def fault? : Node → Option DbError
  | filter (.object _) => none
  | filter v => some (.validation (.filterNotObject v))
  | member field (.object fields) =>
    if (Keyed.get? fields "op").isSome then Operator.fault? (.object fields)
    else some (.validation (.conditionWithoutOp field))
  | member _ _ => none
  | item v => Operator.fault? v

def json : Node → Json
  | filter v | member _ v | item v => v

/-- The node is as it should be, whatever is below it. -/
def Good : Node → Prop
  | filter v => v.asObject?.isSome
  | member _ v => v.asObject? = none ∨ Operator.Good v
  | item v => Operator.Good v

/-- A good node has no fault, and the fault of any other one is explained. -/
theorem fault?_cases (node : Node) :
    (node.Good ∧ node.fault? = none) ∨
      (¬ node.Good ∧ ∃ e, node.fault? = some e ∧ Operator.Explains e node.json) := by
  cases node with
  | filter v =>
      cases v with
      | object fields => exact .inl ⟨rfl, rfl⟩
      | null | bool | number | string | array =>
          refine .inr ⟨by simp [Node.Good, Json.asObject?], _, rfl, .inr ⟨?_, _, rfl⟩⟩
          exact (Operator.not_good_of_noOp rfl).2
  | member field v =>
      cases v with
      | object fields =>
          have hmember (h : ¬ Operator.Good (.object fields)) :
              ¬ (Node.member field (.object fields)).Good := by
            simpa [Node.Good, Json.asObject?] using h
          dsimp only [Node.fault?]
          split_ifs with hop
          · obtain ⟨hgood, hnone⟩ | ⟨hgood, hexplained⟩ := Operator.fault?_cases (.object fields)
            · exact .inl ⟨.inr hgood, hnone⟩
            · exact .inr ⟨hmember hgood, hexplained⟩
          · have hnone : (Json.object fields).field? "op" = none :=
              Option.not_isSome_iff_eq_none.mp hop
            obtain ⟨hgood, hunknown⟩ := Operator.not_good_of_noOp hnone
            exact .inr ⟨hmember hgood, _, rfl, .inr ⟨hunknown, _, rfl⟩⟩
      | null | bool | number | string | array => exact .inl ⟨.inl rfl, rfl⟩
  | item v => exact Operator.fault?_cases v

theorem fault?_eq_none_iff {node : Node} : node.fault? = none ↔ node.Good := by
  obtain ⟨hgood, hnone⟩ | ⟨hgood, e, he, -⟩ := node.fault?_cases
  · exact iff_of_true hnone hgood
  · exact iff_of_false (by simp [he]) hgood

end Node

/-- The member of a filter and what is below it. -/
def memberNodes (member : String × Json) : List Node :=
  .member member.1 member.2 :: member.2.descendants.map .item

/-- The nodes of a document, in the order of the text. -/
def nodes (v : Json) : List Node :=
  .filter v :: (v.asObject?.getD []).flatMap memberNodes

theorem findSome?_fault?_item (vs : List Json) :
    (vs.map Node.item).findSome? Node.fault? = vs.findSome? Operator.fault? :=
  List.findSome?_map

theorem memberOfJson_eq_error_iff (member : String × Json) {e : DbError} :
    memberOfJson member = .error e ↔ (memberNodes member).findSome? Node.fault? = some e := by
  obtain ⟨field, v⟩ := member
  rw [memberNodes, memberOfJson, List.findSome?_cons, findSome?_fault?_item]
  cases v with
  | object fields =>
      dsimp only [conditionOfJson, Node.fault?]
      split_ifs with hop
      · rw [← List.findSome?_cons, ← Operator.ofJson_eq_error_iff]
        cases Operator.ofJson (.object fields) <;> simp [Except.map]
      · simp [Except.map]
  | null | bool | number | string | array =>
      rw [Json.descendants_eq]
      simp [conditionOfJson, Except.map, Node.fault?, Json.items]

/-- Reading a filter ends with the first fault in the order of the text. -/
theorem ofJson_eq_error_iff {v : Json} {e : DbError} :
    ofJson v = .error e ↔ (nodes v).findSome? Node.fault? = some e := by
  cases v with
  | object fields =>
      have hmembers : fields.mapM memberOfJson = .error e ↔
          fields.findSome? (fun member => (memberNodes member).findSome? Node.fault?) = some e :=
        mapM_eq_error_iff fun member _ _ => memberOfJson_eq_error_iff member
      rw [nodes, List.findSome?_cons, ofJson_object]
      dsimp only [Node.fault?, Json.asObject?, Option.getD_some]
      rw [findSome?_flatMap, ← hmembers]
      cases fields.mapM memberOfJson <;> simp [Except.map]
  | null | bool | number | string | array =>
      rw [nodes, List.findSome?_cons]
      simp [ofJson, Node.fault?]

/-- The wire form is decoded exactly.  A filter is read back from its wire form; a value is read if
it is an object whose every member is no object or an operator; and if it is not read, the first
node that is not as it should be decides the error. -/
theorem wire_format_exact :
    (∀ filter : Filter, filter.Distinct → (∀ entry ∈ filter.entries, entry.2.Plain) →
      ofJson filter.toJson = .ok filter) ∧
    (∀ v, (∃ filter, ofJson v = .ok filter) ↔ ∃ fields, v = .object fields ∧
      ∀ member ∈ fields, member.2.asObject? = none ∨ ∃ op : Operator, op.WireForm member.2) ∧
    (∀ v e, ofJson v = .error e → ∃ before node after, nodes v = before ++ node :: after ∧
      (∀ n ∈ before, n.Good) ∧ ¬ node.Good ∧ node.fault? = some e ∧
      Operator.Explains e node.json) := by
  refine ⟨fun filter hdistinct hplain => ?_, fun v => ?_, fun v e h => ?_⟩
  · exact ofJson_eq_ok_iff.mpr (wireForm_toJson hdistinct hplain)
  · rw [← exists_wireForm_iff]
    exact exists_congr fun filter => ofJson_eq_ok_iff
  · have hfirst := ofJson_eq_error_iff.mp h
    obtain ⟨before, node, after, hnodes, hfault, hbefore⟩ := List.findSome?_eq_some_iff.mp hfirst
    refine ⟨before, node, after, hnodes, fun n hn => Node.fault?_eq_none_iff.mp (hbefore n hn), ?_⟩
    obtain ⟨-, hnone⟩ | ⟨hgood, e', he', hexplains⟩ := node.fault?_cases
    · rw [hnone] at hfault
      cases hfault
    · obtain rfl : e' = e := Option.some.inj (he'.symm.trans hfault)
      exact ⟨hgood, hfault, hexplains⟩

/-- A filter with a conjunction in a conjunction. -/
def deepFilter : Filter :=
  ⟨[("a", .value (.array [])),
    ("b", .operator (.all [.compare .like .null, .all [.path [.nat 0] (.object []), .oneOf []]]))]⟩

/-- A conjunction with an unknown operator before an item that is no object. -/
def twoFaults : Json :=
  .object [("val", .array [.object [("op", .string "nope")], .null]), ("op", .string "and")]

theorem wire_format_exact_twoFaults :
    ofJson deepFilter.toJson = .ok deepFilter ∧
      ofJson (.object [("f", twoFaults)]) = .error (.unsupportedOperator "nope") ∧
      ∃ before node after, nodes (.object [("f", twoFaults)]) = before ++ node :: after ∧
        (∀ n ∈ before, n.Good) ∧ ¬ node.Good ∧
        node.fault? = some (.unsupportedOperator "nope") ∧
        Operator.Explains (.unsupportedOperator "nope") node.json := by
  obtain ⟨hread, -, hfirst⟩ := wire_format_exact
  have hdistinct : deepFilter.Distinct := by
    simp [Distinct, deepFilter, Keyed.keys]
  have hplain : ∀ entry ∈ deepFilter.entries, entry.2.Plain := by
    simp [deepFilter, Condition.Plain, Json.asObject?]
  have hunknown : Operator.ofJson (.object [("op", .string "nope")]) =
      .error (.unsupportedOperator "nope") := by
    rw [Operator.ofJson_eq]
    rfl
  have hoperator : Operator.ofJson twoFaults = .error (.unsupportedOperator "nope") := by
    have hhead : Operator.Head.ofJson twoFaults =
        .ok (.conjunction [.object [("op", .string "nope")], .null]) := rfl
    rw [Operator.ofJson_eq, hhead]
    dsimp only [Except.bind, Operator.Head.finish]
    rw [List.mapM_cons, hunknown]
    rfl
  have herror : ofJson (.object [("f", twoFaults)]) = .error (.unsupportedOperator "nope") := by
    have hmember : memberOfJson ("f", twoFaults) =
        ((Operator.ofJson twoFaults).map .operator).map ("f", ·) := rfl
    rw [ofJson_object, List.mapM_cons, hmember, hoperator]
    rfl
  exact ⟨hread deepFilter hdistinct hplain, herror, hfirst _ _ herror⟩

end Filter

end PgCollections
