import PgCollections.Proofs.Postgres.Conversion

/-! # Lists for placeholders

A list of truth values or of numbers is converted element by element, by the conversion of the
element type.  A null in the list is refused although the element type takes null, and whatever is
wrong with an element, the whole value is refused as invalid
(`PgType.converts_lists_by_elements`). -/

namespace PgCollections

theorem Json.isNull_iff {v : Json} : v.isNull ↔ v = .null := by
  cases v with
  | null => exact iff_of_true rfl rfl
  | bool | number | string | array | object => exact iff_of_false nofun nofun

/-- Null is no value of an element type other than those of texts. -/
theorem Scalar.ofJson_null {element : ElementType} (htext : element.type.takesText = false) :
    ofJson element.type .null = .error .invalid := by
  cases element with
  | text | varchar => cases htext
  | bool | int | float8 => rfl

namespace PgType

variable {type : PgType} {element : ElementType} {v : Json} {datum : Option Datum}

/-- What another value than null is converted to for a scalar type is a scalar. -/
theorem exists_scalar_of_convert (htype : type.isScalar) (hv : v ≠ .null)
    (h : type.convert v = .ok datum) : ∃ x, datum = some (.scalar x) := by
  cases conversion_of_convert h with
  | null hnull => exact absurd (Json.isNull_iff.mp hnull) hv
  | list | json | jsonb => cases htype
  | @scalar _ _ x => exact ⟨x, rfl⟩

/-- The elements of a list are read as values other than null are converted. -/
theorem convert_element_iff (htext : element.type.takesText = false) {x : Scalar} :
    v ≠ .null ∧ element.type.convert v = .ok (some (.scalar x)) ↔
      Scalar.ofJson element.type v = .ok x := by
  cases v with
  | null =>
      rw [Scalar.ofJson_null htext]
      exact iff_of_false (fun h => h.1 rfl) nofun
  | bool | number | string | array | object =>
      rw [convert_eq_scalar_iff (ElementType.isScalar_type element) rfl]
      exact and_iff_right nofun

theorem convert_list_eq_ok_iff (htext : element.type.takesText = false) :
    (PgType.list element).convert v = .ok datum ↔
      v = .null ∧ datum = none ∨
        ∃ items xs, v = .array items ∧ datum = some (.list element xs) ∧
          List.Forall₂ (fun item x => item ≠ .null ∧
            element.type.convert item = .ok (some (.scalar x))) items xs := by
  simp only [convert_element_iff htext]
  constructor
  · intro h
    cases conversion_of_convert h with
    | null hv => exact .inl ⟨Json.isNull_iff.mp hv, rfl⟩
    | @list _ items xs hitems => exact .inr ⟨items, xs, rfl, rfl, hitems⟩
    | scalar htype => cases htype
  · rintro (⟨rfl, rfl⟩ | ⟨items, xs, rfl, rfl, hitems⟩)
    · rfl
    · rw [convert_list rfl, convertList, mapM_eq_ok_iff.mpr hitems]
      rfl

/-- A list is converted if its elements are. -/
theorem exists_convert_list_iff (htext : element.type.takesText = false) :
    (∃ datum, (PgType.list element).convert v = .ok datum) ↔
      v = .null ∨ ∃ items, v = .array items ∧
        ∀ item ∈ items, item ≠ .null ∧ ∃ datum, element.type.convert item = .ok datum := by
  have helements (items : List Json) :
      (∀ item ∈ items, item ≠ .null ∧ ∃ datum, element.type.convert item = .ok datum) ↔
        ∃ xs, List.Forall₂ (fun item x => item ≠ .null ∧
          element.type.convert item = .ok (some (.scalar x))) items xs := by
    rw [exists_forall₂_iff]
    refine forall₂_congr fun item _ => ⟨?_, ?_⟩
    · rintro ⟨hitem, datum, hdatum⟩
      obtain ⟨x, rfl⟩ :=
        exists_scalar_of_convert (ElementType.isScalar_type element) hitem hdatum
      exact ⟨x, hitem, hdatum⟩
    · rintro ⟨x, hitem, hx⟩
      exact ⟨hitem, _, hx⟩
  simp only [convert_list_eq_ok_iff htext, helements]
  constructor
  · rintro ⟨datum, ⟨hv, -⟩ | ⟨items, xs, hv, -, hitems⟩⟩
    · exact .inl hv
    · exact .inr ⟨items, hv, xs, hitems⟩
  · rintro (hv | ⟨items, hv, xs, hitems⟩)
    · exact ⟨none, .inl ⟨hv, rfl⟩⟩
    · exact ⟨_, .inr ⟨items, xs, hv, rfl, hitems⟩⟩

/-- A list is refused as a whole. -/
theorem eq_invalidInput_of_convert_list {e : PgError}
    (h : (PgType.list element).convert v = .error e) : e = .invalidInput (.list element) v := by
  cases refused_of_convert h
  rfl

/-- A list of truth values or of numbers is the list of what its elements are converted to, in
their order.  It is converted if and only if the value is null, or a list of values other than null
that are all converted for the element type.  Every other value is refused as invalid, with a
message that quotes the whole value. -/
theorem converts_lists_by_elements (htext : element.type.takesText = false) (v : Json) :
    (∀ datum, (PgType.list element).convert v = .ok datum ↔
      v = .null ∧ datum = none ∨
        ∃ items xs, v = .array items ∧ datum = some (.list element xs) ∧
          List.Forall₂ (fun item x => item ≠ .null ∧
            element.type.convert item = .ok (some (.scalar x))) items xs) ∧
    ((∃ datum, (PgType.list element).convert v = .ok datum) ↔
      v = .null ∨ ∃ items, v = .array items ∧
        ∀ item ∈ items, item ≠ .null ∧ ∃ datum, element.type.convert item = .ok datum) ∧
    ∀ e, (PgType.list element).convert v = .error e →
      e.code? = some SqlState.invalidTextRepresentation ∧
        e.message = "invalid input syntax for type " ++ PgError.typeLabel (.list element) ++
          ": " ++ v.text := by
  refine ⟨fun datum => convert_list_eq_ok_iff htext, exists_convert_list_iff htext, ?_⟩
  intro e h
  obtain rfl := eq_invalidInput_of_convert_list h
  exact ⟨rfl, rfl⟩

/-- Small integers are sent from numbers and from texts.  A number that is out of range on its own
makes the list invalid, and so does a null, which is converted on its own. -/
theorem converts_lists_by_elements_smallIntegers :
    (PgType.list (.int .two)).convert (.array [.string " 7 ", .number (.int 8)]) =
        .ok (some (.list (.int .two) [.int .two 7, .int .two 8])) ∧
      (PgType.int .two).convert (.number (.int 70000)) = .error (.outOfRange (.int .two) 70000) ∧
      (¬∃ datum, (PgType.list (.int .two)).convert (.array [.number (.int 70000)]) = .ok datum) ∧
      (PgType.int .two).convert .null = .ok none ∧
      (¬∃ datum, (PgType.list (.int .two)).convert (.array [.null]) = .ok datum) := by
  have htext : (ElementType.int .two).type.takesText = false := rfl
  have hlarge : (PgType.int .two).convert (.number (.int 70000)) =
    .error (.outOfRange (.int .two) 70000) := rfl
  obtain ⟨hread, -, -⟩ :=
    converts_lists_by_elements htext (.array [.string " 7 ", .number (.int 8)])
  obtain ⟨-, houtOfRange, -⟩ := converts_lists_by_elements htext (.array [.number (.int 70000)])
  obtain ⟨-, hnull, -⟩ := converts_lists_by_elements htext (.array [.null])
  refine ⟨(hread _).mpr (.inr ⟨_, _, rfl, rfl, ?_⟩), hlarge, ?_, rfl, ?_⟩
  · exact .cons ⟨nofun, rfl⟩ (.cons ⟨nofun, rfl⟩ .nil)
  · rw [houtOfRange]
    rintro (h | ⟨items, h, hitems⟩)
    · cases h
    · cases h
      obtain ⟨-, datum, hdatum⟩ := hitems _ List.mem_cons_self
      cases hdatum
  · rw [hnull]
    rintro (h | ⟨items, h, hitems⟩)
    · cases h
    · cases h
      exact (hitems .null List.mem_cons_self).1 rfl

end PgType

end PgCollections
