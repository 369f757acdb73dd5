import PgCollections.Proofs.Postgres.Lists

/-! # Null elements of lists

Lists in JSON and lists of the server can hold nulls, and the values of list types cannot.  A JSON
list with a null is sent for a placeholder of a list of texts, with the word that the null has in
JSON as a text, and refused for the placeholders of all other lists.  A list of the server is read
as null as a whole if one of its elements is null (`ElementType.nulls_in_lists`). -/

namespace PgCollections

namespace Scalar

/-- Texts are read of everything. -/
theorem ofJson_of_takesText {element : ElementType} (htext : element.type.takesText) (v : Json) :
    ofJson element.type v = .ok (.text v.plainText) := by
  cases element with
  | text | varchar => rfl
  | bool | int | float8 => cases htext

end Scalar

namespace PgType

variable {element : ElementType} {items : List Json}

/-- A list of texts takes every list. -/
theorem convert_list_of_takesText (htext : element.type.takesText) (items : List Json) :
    (PgType.list element).convert (.array items) =
      .ok (some (.list element (items.map fun v => .text v.plainText))) := by
  have hmap : items.mapM (Scalar.ofJson element.type) =
      .ok (items.map fun v => .text v.plainText) := by
    rw [mapM_eq_ok_iff, List.forall₂_map_right_iff, List.forall₂_same]
    intro v _
    exact Scalar.ofJson_of_takesText htext v
  simp only [convert, Json.isNull, convertList, hmap]
  rfl

/-- Any other list refuses a list with a null. -/
theorem convert_list_of_null (htext : element.type.takesText = false) (hnull : .null ∈ items) :
    (PgType.list element).convert (.array items) =
      .error (.invalidInput (.list element) (.array items)) := by
  cases hconvert : (PgType.list element).convert (.array items) with
  | error e => rw [eq_invalidInput_of_convert_list hconvert]
  | ok datum =>
      obtain h | ⟨_, h, hitems⟩ := (exists_convert_list_iff htext).mp ⟨datum, hconvert⟩
      · cases h
      · cases h
        exact absurd rfl (hitems .null hnull).1

end PgType

namespace ElementType

/-- A JSON list with a null is refused unless it is for a list of texts, which takes the null as the
text of four letters that it has in JSON.  A list of the server is read as the list of the values of
its elements if there are such values, and as null otherwise; a list with a null has none. -/
theorem nulls_in_lists (element : ElementType) :
    (∀ items, .null ∈ items →
      (PgType.list element).convert (.array items) =
        if element.type.takesText then
          .ok (some (.list element (items.map fun v => .text v.plainText)))
        else .error (.invalidInput (.list element) (.array items))) ∧
    ∀ (l : StoredList) (bigIntAsNumber : Bool),
      (PgType.list element).cell bigIntAsNumber (some (l.encode element)) =
          ((l.values? element.type).map fun xs =>
            .array (xs.map (·.toJson bigIntAsNumber))).getD .null ∧
        (none ∈ l.elements → l.values? element.type = none) := by
  refine ⟨?_, ?_⟩
  · intro items hnull
    cases htext : element.type.takesText with
    | true => exact PgType.convert_list_of_takesText htext items
    | false => exact PgType.convert_list_of_null htext hnull
  · intro l bigIntAsNumber
    refine ⟨?_, fun hnull => StoredList.values?_of_null hnull element.type⟩
    have hdecode : Datum.decode? (.list element) (l.encode element) =
        (l.values? element.type).map (Datum.list element) := by
      rw [Datum.decode?, StoredList.decodeList?_encode]
    rw [PgType.cell, Option.bind_some, hdecode, Option.map_map]
    rfl

/-- The numbers 1 and 3 with a null between them. -/
def gap : StoredList where
  dimensions := [(3, 1)]
  elements := [some [0, 0, 0, 1], none, some [0, 0, 0, 3]]
  rank_lt := by decide
  fits := by
    intro dimension hdimension
    obtain rfl := List.mem_singleton.mp hdimension
    exact ⟨by decide, by decide, by decide⟩
  length_lt := by
    intro bytes hbytes
    have hfour : bytes.length = 4 := by
      simp only [List.mem_cons, Option.some.injEq, reduceCtorEq, false_or, List.not_mem_nil,
        or_false] at hbytes
      rcases hbytes with rfl | rfl
      · rfl
      · rfl
    rw [hfour]
    decide
  count_eq := rfl

/-- The null of a list of texts is sent as a text, the one of a list of truth values is refused, and
numbers are not read because there is a null among them. -/
theorem nulls_in_lists_gap :
    (PgType.list .varchar).convert (.array [.string "a", .null]) =
        .ok (some (.list .varchar [.text "a", .text "null"])) ∧
      (PgType.list .bool).convert (.array [.bool true, .null]) =
        .error (.invalidInput (.list .bool) (.array [.bool true, .null])) ∧
      none ∈ gap.elements ∧
      (PgType.list (.int .four)).cell true (some (gap.encode (.int .four))) = .null := by
  obtain ⟨htexts, -⟩ := nulls_in_lists .varchar
  obtain ⟨hbools, -⟩ := nulls_in_lists .bool
  obtain ⟨-, hstored⟩ := nulls_in_lists (.int .four)
  have hnull : none ∈ gap.elements := List.mem_cons_of_mem _ List.mem_cons_self
  obtain ⟨hcell, hnone⟩ := hstored gap true
  rw [hnone hnull] at hcell
  refine ⟨htexts _ ?_, hbools _ ?_, hnull, hcell⟩
  · exact List.mem_cons_of_mem _ List.mem_cons_self
  · exact List.mem_cons_of_mem _ List.mem_cons_self

/-- For a list of texts a null is altered, while it is refused for a list of numbers, and the cell
of a list of numbers with a null is null as a whole. -/
theorem nulls_in_lists_altered :
    (PgType.list .text).convert (.array [.null]) = .ok (some (.list .text [.text "null"])) ∧
      (PgType.list (.int .four)).convert (.array [.null]) =
        .error (.invalidInput (.list (.int .four)) (.array [.null])) ∧
      (PgType.list (.int .four)).cell false (some
        [0, 0, 0, 1, 0, 0, 0, 1, 0, 0, 0, 23, 0, 0, 0, 3, 0, 0, 0, 1,
          0, 0, 0, 4, 0, 0, 0, 1, 255, 255, 255, 255, 0, 0, 0, 4, 0, 0, 0, 3]) = .null :=
  ⟨rfl, rfl, rfl⟩

end ElementType

end PgCollections
