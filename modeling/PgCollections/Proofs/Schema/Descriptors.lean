import PgCollections.Proofs.Json.RoundTrip
import PgCollections.Schema.FieldType

/-! # Descriptors of field types

A kind is read back from its name (`FieldKind.ofName_name`).  The names that are read are those of
the kinds that are no lists behind any number of list prefixes, and all names for texts are printed
as one (`FieldKind.ofName_eq_ok_iff`).  A field type is described by a JSON text, and what this text
stands for decodes to the field type (`FieldType.ofJson_toJson`). -/

namespace PgCollections

namespace FieldKind

/-! ### Names -/

/-- The names of the kinds that are no lists. -/
def baseNames : List String :=
  ["int", "id", "bool", "float", "/", "string", "hex", "base64", "email", "password", "time",
    "bigint"]

/-- Other names for texts. -/
def textAliases : List String := ["/", "hex", "base64", "email", "password"]

/-- The name that is printed for a name that is read. -/
def printedName (base : String) : String := if base ∈ textAliases then "string" else base

/-- A name behind list prefixes. -/
def listName : Nat → String → String
  | 0, base => base
  | depth + 1, base => "array_" ++ listName depth base

/-- A prefix makes a list of what stands behind it. -/
theorem ofName_array (name : String) : ofName ("array_" ++ name) = (ofName name).map array := by
  unfold ofName
  rw [String.toList_append]
  exact rfl

theorem ofName_name (kind : FieldKind) : ofName kind.name = .ok kind := by
  induction kind with
  | array item ih =>
      rw [name, ofName_array, ih]
      rfl
  | _ => rfl

/-- Every base name is read, and printed as itself or as the name of texts. -/
theorem exists_ofName_of_mem_baseNames {base : String} (h : base ∈ baseNames) :
    ∃ kind, ofName base = .ok kind ∧ kind.name = printedName base := by
  simp only [baseNames, List.mem_cons, List.not_mem_nil, or_false] at h
  rcases h with rfl | rfl | rfl | rfl | rfl | rfl | rfl | rfl | rfl | rfl | rfl | rfl <;>
    exact ⟨_, rfl, rfl⟩

theorem mem_baseNames_of_base? {base : String} {kind : FieldKind} (h : base? base = some kind) :
    base ∈ baseNames := by
  unfold base? at h
  split at h
  case h_13 => cases h
  all_goals decide

/-- Behind any number of prefixes a base name is read. -/
theorem exists_ofName_listName {base : String} (h : base ∈ baseNames) (depth : Nat) :
    ∃ kind, ofName (listName depth base) = .ok kind ∧
      kind.name = listName depth (printedName base) := by
  induction depth with
  | zero => exact exists_ofName_of_mem_baseNames h
  | succ depth ih =>
      obtain ⟨item, hread, hname⟩ := ih
      refine ⟨array item, ?_, ?_⟩
      · rw [listName, ofName_array, hread]
        rfl
      · rw [name, hname, listName]

/-- Only base names behind prefixes are read. -/
theorem exists_listName_of_ofChars {cs : List Char} {kind : FieldKind} (h : ofChars cs = .ok kind) :
    ∃ depth, ∃ base ∈ baseNames, String.ofList cs = listName depth base := by
  fun_induction ofChars cs generalizing kind with
  | case1 item ih =>
      cases hitem : ofChars item with
      | error e =>
          rw [hitem] at h
          cases h
      | ok inner =>
          obtain ⟨depth, base, hbase, hname⟩ := ih hitem
          refine ⟨depth + 1, base, hbase, ?_⟩
          rw [listName, ← hname, ← String.toList_inj]
          simp
  | case2 cs _ found hfound => exact ⟨0, _, mem_baseNames_of_base? hfound, rfl⟩
  | case3 => cases h

/-- A name is read if it is a base name behind list prefixes, and then it is the printed name, up to
the name for texts. -/
theorem ofName_eq_ok_iff {s : String} {kind : FieldKind} :
    ofName s = .ok kind ↔ ∃ depth, ∃ base ∈ baseNames, s = listName depth base ∧
      kind.name = listName depth (printedName base) := by
  constructor
  · intro h
    obtain ⟨depth, base, hbase, hname⟩ := exists_listName_of_ofChars h
    rw [String.ofList_toList] at hname
    obtain ⟨read, hread, hprinted⟩ := exists_ofName_listName hbase depth
    rw [← hname, h] at hread
    obtain rfl := Except.ok.inj hread
    exact ⟨depth, base, hbase, hname, hprinted⟩
  · rintro ⟨depth, base, hbase, rfl, hname⟩
    obtain ⟨read, hread, hprinted⟩ := exists_ofName_listName hbase depth
    -- Kinds with the same name are the same.
    have hsame : (.ok kind : Except DbError FieldKind) = .ok read := by
      rw [← ofName_name kind, ← ofName_name read, hname, hprinted]
    rw [hread, hsame]

/-- The characters of names need no escapes. -/
theorem flatMap_escapeChar_name (kind : FieldKind) :
    kind.name.toList.flatMap Json.escapeChar = kind.name.toList := by
  induction kind with
  | array item ih =>
      have hmark : "array_".toList.flatMap Json.escapeChar = "array_".toList := rfl
      rw [name, String.toList_append, List.flatMap_append, hmark, ih]
  | _ => rfl

end FieldKind

/-- A text without escapes stands between quotes as it is. -/
theorem Json.quote_of_plain {s : String} (h : s.toList.flatMap escapeChar = s.toList) :
    quote s = "\"" ++ s ++ "\"" := by
  rw [← String.toList_inj, quote, h]
  simp

namespace FieldType

/-! ### Descriptions -/

/-- The fields of a description; a length and a flag are there only if they are set. -/
def fields (type : FieldType) : List (String × Json) :=
  ("type", .string type.kind.name) ::
    (type.maxLength.toList.map (fun n => ("maxLength", .nat n)) ++
      if type.auto then [("auto", .bool true)] else [])

/-- What a description stands for. -/
def toJson (type : FieldType) : Json := .object type.fields

theorem text_toJson (type : FieldType) : type.toJson.text = type.description := by
  obtain ⟨kind, maxLength, auto⟩ := type
  have hname := Json.quote_of_plain kind.flatMap_escapeChar_name
  have htype : Json.quote "type" = "\"type\"" := Json.quote_of_plain rfl
  have hlength : Json.quote "maxLength" = "\"maxLength\"" := Json.quote_of_plain rfl
  have hauto : Json.quote "auto" = "\"auto\"" := Json.quote_of_plain rfl
  have hnat (n : Nat) : (Json.nat n).text = toString n := rfl
  rw [← String.toList_inj]
  cases maxLength <;> cases auto <;>
    simp [toJson, fields, description, Json.text, Json.fieldTexts, hname, htype, hlength, hauto, hnat]

/-- The fields of a description are found where they are written. -/
theorem record?_toJson (type : FieldType) :
    type.toJson.record? .strict [⟨["type"], false⟩, ⟨["maxLength"], false⟩, ⟨["auto"], true⟩] =
      some [some (.string type.kind.name), type.maxLength.map .nat,
        if type.auto then some (.bool true) else none] := by
  obtain ⟨kind, maxLength, auto⟩ := type
  cases maxLength <;> cases auto <;> rfl

theorem optional?_nat {max : Nat} {length : Option Nat} (h : ∀ n ∈ length, n ≤ max) :
    Json.optional? (Json.asNat? max) (length.map .nat) = some length := by
  cases length with
  | none => rfl
  | some n =>
      have hn : Json.asNat? max (.nat n) = some n := by
        have hbounds : (0 : Int) ≤ n ∧ (n : Int) ≤ max := ⟨by omega, by have := h n rfl; omega⟩
        exact if_pos hbounds
      exact congrArg (Option.map some) hn

theorem orDefault?_auto (auto : Bool) :
    Json.orDefault? Json.asBool? false (if auto then some (.bool true) else none) = some auto := by
  cases auto <;> rfl

theorem ofJson_toJson {type : FieldType} (h : ∀ n ∈ type.maxLength, n ≤ maxMaxLength) :
    ofJson type.toJson = .ok type := by
  unfold ofJson
  rw [record?_toJson]
  simp only [Option.bind_eq_bind, Option.bind_some, optional?_nat h, orDefault?_auto,
    Json.asString?, Option.pure_def, FieldKind.ofName_name]

theorem nodup_keys_fields (type : FieldType) : (Keyed.keys type.fields).Nodup := by
  obtain ⟨kind, maxLength, auto⟩ := type
  cases maxLength <;> cases auto <;> simp [fields, Keyed.keys]

/-- The fields hold a name, a length and a flag. -/
theorem mem_fields {type : FieldType} {field : String × Json} (h : field ∈ type.fields) :
    field.2 = .string type.kind.name ∨ (∃ n ∈ type.maxLength, field.2 = .nat n) ∨
      field.2 = .bool true := by
  rcases List.mem_cons.mp h with rfl | h
  · exact .inl rfl
  · rcases List.mem_append.mp h with h | h
    · obtain ⟨n, hn, rfl⟩ := List.mem_map.mp h
      exact .inr (.inl ⟨n, Option.mem_toList.mp hn, rfl⟩)
    · split at h
      · obtain rfl := List.mem_singleton.mp h
        exact .inr (.inr rfl)
      · cases h

/-- A text can stand for the fields, and none of them is a double. -/
theorem fits_toJson {type : FieldType} (h : ∀ n ∈ type.maxLength, n ≤ maxMaxLength) :
    type.toJson.Fits Json.maxDepth ∧ type.toJson.Exact := by
  constructor
  · refine .object type.nodup_keys_fields fun field hfield => ?_
    rcases mem_fields hfield with hv | ⟨n, hn, hv⟩ | hv <;> rw [hv]
    · exact .string _
    · have hlength : n ≤ 4294967295 := h n hn
      exact .number (Json.Number.fits_int_iff.mpr (by omega))
    · exact .bool true
  · intro x hx
    rw [toJson, Json.doubles, Json.fieldDoubles_eq] at hx
    obtain ⟨field, hfield, hx⟩ := List.mem_flatMap.mp hx
    rcases mem_fields hfield with hv | ⟨n, -, hv⟩ | hv <;> rw [hv] at hx <;> cases hx

/-- A field type is read back from its description. -/
theorem parse?_description {type : FieldType} (h : ∀ n ∈ type.maxLength, n ≤ maxMaxLength) :
    Json.parse? type.description = some type.toJson := by
  obtain ⟨hfits, hexact⟩ := fits_toJson h
  rw [← text_toJson]
  exact Json.parse?_text hfits hexact

/-- Kinds are read back from their names, however deep their lists are.  A text is a name if and only
if it is one of the base names behind list prefixes; it is then printed as it was read, but for the
name of texts.  The description of a field type is a JSON text that decodes to the field type, with
any length of 32 bits. -/
theorem descriptors_read_back :
    (∀ kind : FieldKind, FieldKind.ofName kind.name = .ok kind) ∧
    (∀ s, (∃ kind, FieldKind.ofName s = .ok kind) ↔
      ∃ depth, ∃ base ∈ FieldKind.baseNames, s = FieldKind.listName depth base) ∧
    (∀ s kind, FieldKind.ofName s = .ok kind ↔ ∃ depth, ∃ base ∈ FieldKind.baseNames,
      s = FieldKind.listName depth base ∧
      kind.name = FieldKind.listName depth (FieldKind.printedName base)) ∧
    ∀ type : FieldType, (∀ n ∈ type.maxLength, n ≤ maxMaxLength) →
      (Json.parse? type.description).map ofJson = some (.ok type) := by
  refine ⟨FieldKind.ofName_name, fun s => ⟨?_, ?_⟩, fun s kind => FieldKind.ofName_eq_ok_iff,
    fun type h => ?_⟩
  · rintro ⟨kind, h⟩
    obtain ⟨depth, base, hbase, hs, -⟩ := FieldKind.ofName_eq_ok_iff.mp h
    exact ⟨depth, base, hbase, hs⟩
  · rintro ⟨depth, base, hbase, rfl⟩
    obtain ⟨kind, hread, -⟩ := FieldKind.exists_ofName_listName hbase depth
    exact ⟨kind, hread⟩
  · rw [parse?_description h, Option.map_some, ofJson_toJson h]

/-- Lists of lists of texts under another name, with the greatest length and all flags. -/
theorem descriptors_read_back_nestedAlias :
    let type : FieldType := ⟨.array (.array .text), some 4294967295, true⟩
    (∀ n ∈ type.maxLength, n ≤ maxMaxLength) ∧
      type.description =
        "\x7b\"type\":\"array_array_string\",\"maxLength\":4294967295,\"auto\":true\x7d" ∧
      (Json.parse? type.description).map ofJson = some (.ok type) ∧
      ∃ kind, FieldKind.ofName "array_array_base64" = .ok kind ∧
        kind.name = "array_array_string" := by
  intro type
  obtain ⟨-, -, hprinted, hdescriptions⟩ := descriptors_read_back
  have hlength : ∀ n ∈ type.maxLength, n ≤ maxMaxLength := by
    rintro n ⟨⟩
    exact le_refl maxMaxLength
  have hbase : "base64" ∈ FieldKind.baseNames := by decide
  have hread := (hprinted "array_array_base64" type.kind).mpr ⟨2, "base64", hbase, rfl, rfl⟩
  exact ⟨hlength, by decide +kernel, hdescriptions type hlength, type.kind, hread, rfl⟩

end FieldType

end PgCollections
