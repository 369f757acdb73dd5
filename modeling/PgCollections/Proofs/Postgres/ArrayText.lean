import PgCollections.Proofs.Database.Step
import PgCollections.Proofs.Json.RoundTrip
import PgCollections.Proofs.Postgres.Resending

/-! # Lists written as JSON text

With a flag the cells of a row that are lists are written as the JSON text of the list.  The text
begins with a bracket, which no reader of a scalar takes, as none of them takes a list: placeholders
that are no lists treat both alike (`PgType.convert_string_eq_array`).  Texts and documents take the
plain text of a value, so that a row is sent as the same bytes whether the flag is set or not, if
those are the types of the columns that hold lists (`Flags.arrayAsJson_agrees`). -/

namespace PgCollections

open Scan

/-! ### No reader takes a bracket -/

section Bracket

variable (more : List Char)

theorem refuses_scanInt_bracket : scanInt.Refuses ('[' :: more) := rfl

/-- In lower case the bracket is still there, so that the text is no word. -/
theorem toLower_bracket_ne {word : String} (h : word.toList.head? ≠ some '[') :
    String.ofList (('[' :: more).map Char.toLower) ≠ word := by
  rintro rfl
  apply h
  rw [String.toList_ofList]
  rfl

theorem namedMagnitude?_bracket : namedMagnitude? ('[' :: more) = none := by
  have hwords : ∀ w ∈ ["inf", "infinity", "nan"], w.toList.head? ≠ some '[' := by decide
  have hinf := toLower_bracket_ne more (hwords "inf" (by decide))
  have hinfinity := toLower_bracket_ne more (hwords "infinity" (by decide))
  have hnan := toLower_bracket_ne more (hwords "nan" (by decide))
  simp only [namedMagnitude?, hinf, hinfinity, hnan, or_self, if_false]

theorem refuses_scanDouble_bracket : Double.scan.Refuses ('[' :: more) := by
  have hsign : sign.Reads [] false ('[' :: more) := rfl
  have hnamed : scanNamed.run ('[' :: more) = none := by
    change (namedMagnitude? ('[' :: more)).map (·, []) = none
    rw [namedMagnitude?_bracket]
    rfl
  apply hsign.refuses
  apply Refuses.bind
  unfold Refuses
  rw [StateT.run_orElse, hnamed]
  rfl

theorem Numeric.ofText?_bracket : Numeric.ofText? ('[' :: more) = none := rfl

theorem Bytes.ofHex?_bracket : Bytes.ofHex? ('[' :: more) = none := by
  cases more with
  | nil => rfl
  | cons c more => rfl

theorem Date.refuses_scan_bracket : Date.scan.Refuses ('[' :: more) := rfl

theorem Timestamp.refuses_scanLocal_bracket (separator : Scan Unit) :
    (Timestamp.scanLocal separator).Refuses ('[' :: more) := rfl

theorem Timestamp.refuses_scanInstant_bracket : Timestamp.scanInstant.Refuses ('[' :: more) := rfl

end Bracket

section BracketText

variable {s : String} {more : List Char} (h : s.toList = '[' :: more)
include h

theorem Uuid.ofText?_of_bracket : Uuid.ofText? s = none := by
  have hhyphenated : Uuid.ofHyphenated? ('[' :: more) = none := by
    rw [Uuid.ofHyphenated?]
    split
    case isTrue => exact congrArg (Option.bind · Uuid.ofBytes?) (Bytes.ofHex?_bracket _)
    case isFalse => rfl
  have hurn : Uuid.urn.isPrefixOf (('[' :: more).map Char.toLower) = false := rfl
  have hbrace : ('[' :: more).head? ≠ some '\x7b' := ne_of_beq_false rfl
  simp only [Uuid.ofText?, h, Bytes.ofHex?_bracket, hhyphenated, hurn, hbrace, Option.bind_none,
    Bool.false_eq_true, false_and, and_false, if_false, ite_self]

theorem Date.ofText?_of_bracket : Date.ofText? s = none := by
  rw [Date.ofText?, h]
  exact (Date.refuses_scan_bracket more).all?_eq_none

theorem Timestamp.ofLocalText?_of_bracket : Timestamp.ofLocalText? s = none := by
  have hletter := (Timestamp.refuses_scanLocal_bracket more (Scan.char 'T')).all?_eq_none
  have hspaces := (Timestamp.refuses_scanLocal_bracket more Scan.skipSpaces).all?_eq_none
  rw [Timestamp.ofLocalText?, h, hletter, hspaces]
  rfl

theorem Timestamp.ofOffsetText?_of_bracket : Timestamp.ofOffsetText? s = none := by
  rw [Timestamp.ofOffsetText?, h]
  exact (Timestamp.refuses_scanInstant_bracket more).all?_eq_none

end BracketText

namespace Scalar

/-! ### Scalars of texts that begin with a bracket -/

section Text

variable {s : String} {more : List Char} (h : s.toList = '[' :: more)
include h

/-- The bracket is still there when white space is taken off. -/
theorem exists_asTrimmed? : ∃ kept, (Json.string s).asTrimmed? = some ('[' :: kept) := by
  obtain ⟨kept, hkept⟩ := exists_trim_cons (rfl : isSpace '[' = false) more
  refine ⟨kept, ?_⟩
  simp only [Json.asTrimmed?, Json.asString?, Option.map_some, h, hkept]

theorem readBool?_of_bracket : readBool? (.string s) = none := by
  obtain ⟨kept, hkept⟩ := exists_asTrimmed? h
  have htrueWords : ∀ w ∈ trueWords, w.toList.head? ≠ some '[' := by decide
  have hfalseWords : ∀ w ∈ falseWords, w.toList.head? ≠ some '[' := by decide
  have htrue : String.ofList (('[' :: kept).map Char.toLower) ∉ trueWords := by
    intro hmem
    exact toLower_bracket_ne kept (htrueWords _ hmem) rfl
  have hfalse : String.ofList (('[' :: kept).map Char.toLower) ∉ falseWords := by
    intro hmem
    exact toLower_bracket_ne kept (hfalseWords _ hmem) rfl
  simp only [readBool?, hkept, Option.bind_eq_bind, Option.bind_some, if_neg htrue, if_neg hfalse]

theorem readInt?_of_bracket : readInt? (.string s) = none := by
  obtain ⟨kept, hkept⟩ := exists_asTrimmed? h
  simp only [readInt?, hkept, Option.bind_eq_bind, Option.bind_some,
    (refuses_scanInt_bracket kept).all?_eq_none, Option.bind_none]

theorem readDouble?_of_bracket : readDouble? (.string s) = none := by
  obtain ⟨kept, hkept⟩ := exists_asTrimmed? h
  simp only [readDouble?, hkept, Option.bind_eq_bind, Option.bind_some,
    (refuses_scanDouble_bracket kept).all?_eq_none]

theorem readNumeric?_of_bracket : readNumeric? (.string s) = none := by
  obtain ⟨kept, hkept⟩ := exists_asTrimmed? h
  simp only [readNumeric?, hkept, Option.bind_eq_bind, Option.bind_some, Numeric.ofText?_bracket]

end Text

/-- A scalar with a reader of its own is read of no text that begins with a bracket. -/
theorem ofJson_of_bracket {type : PgType} (hscalar : type.isScalar) (htext : type.takesText = false)
    {s : String} {more : List Char} (h : s.toList = '[' :: more) :
    ofJson type (.string s) = .error .invalid := by
  cases type with
  | bool =>
      rw [ofJson, readBool?_of_bracket h]
      rfl
  | int width => rw [ofJson, readInt, readInt?_of_bracket h]
  | float4 | float8 =>
      rw [ofJson, readDouble?_of_bracket h]
      rfl
  | numeric =>
      rw [ofJson, readNumeric?_of_bracket h]
      rfl
  | uuid =>
      rw [ofJson, Json.asString?, Option.bind_some, Uuid.ofText?_of_bracket h]
      rfl
  | timestamptz =>
      rw [ofJson, Json.asString?, Option.bind_some, Timestamp.ofInstant?,
        Timestamp.ofOffsetText?_of_bracket h, Timestamp.ofLocalText?_of_bracket h]
      rfl
  | timestamp =>
      rw [ofJson, Json.asString?, Option.bind_some, Timestamp.ofLocal?,
        Timestamp.ofOffsetText?_of_bracket h, Timestamp.ofLocalText?_of_bracket h]
      rfl
  | date =>
      rw [ofJson, Json.asString?, Option.bind_some, Date.ofText?_of_bracket h]
      rfl
  -- Lists and documents are no scalars, and texts are read of everything.
  | list | json | jsonb => cases hscalar
  | text | varchar | char | name | unknown | other => cases htext

/-- No scalar with a reader of its own is read of a list. -/
theorem ofJson_array {type : PgType} (hscalar : type.isScalar) (htext : type.takesText = false)
    (items : List Json) : ofJson type (.array items) = .error .invalid := by
  cases type with
  | list | json | jsonb => cases hscalar
  | text | varchar | char | name | unknown | other => cases htext
  | _ => rfl

end Scalar

/-! ### Cells under the flag -/

namespace Json

/-- Writing a list as text changes neither the plain text nor what is null. -/
theorem plainText_asCell (flags : Flags) (v : Json) : (v.asCell flags).plainText = v.plainText := by
  cases v with
  | array items =>
      rw [asCell_array]
      split <;> rfl
  | _ => rfl

theorem isNull_asCell (flags : Flags) (v : Json) : (v.asCell flags).isNull = v.isNull := by
  cases v with
  | array items =>
      rw [asCell_array]
      split <;> rfl
  | _ => rfl

end Json

namespace PgType

variable {type : PgType}

/-- A placeholder for texts or documents tells values apart by their plain texts only. -/
theorem convert_of_takesText (htype : type.takesText) {v w : Json} (hnull : v.isNull = w.isNull)
    (htext : v.plainText = w.plainText) : type.convert v = type.convert w := by
  unfold convert
  rw [hnull]
  cases type with
  | bool | int | float4 | float8 | numeric | uuid | timestamptz | timestamp | date | list =>
      cases htype
  | _ => simp only [Scalar.ofJson, htext, Except.mapError]

theorem convert_asCell (htype : type.takesText) (flags : Flags) (v : Json) :
    type.convert (v.asCell flags) = type.convert v :=
  convert_of_takesText htype (Json.isNull_asCell flags v) (Json.plainText_asCell flags v)

/-- A placeholder that is no list treats a list and its text alike: it takes both as one value, or
refuses both as invalid. -/
theorem convert_string_eq_array (htype : ∀ element, type ≠ .list element) (items : List Json) :
    (type.convert (.string (Json.array items).text)).mapError PgError.code? =
      (type.convert (.array items)).mapError PgError.code? := by
  cases htext : type.takesText with
  | true =>
      have hsame : type.convert (.string (Json.array items).text) = type.convert (.array items) :=
        convert_of_takesText htext rfl rfl
      rw [hsame]
  | false =>
      have hscalar : type.isScalar := by
        cases type with
        | list element => exact absurd rfl (htype element)
        | json | jsonb => cases htext
        | _ => rfl
      rw [convert_of_isScalar hscalar rfl, convert_of_isScalar hscalar rfl,
        Scalar.ofJson_of_bracket hscalar htext (Json.toList_text_array items),
        Scalar.ofJson_array hscalar htext]
      rfl

end PgType

/-! ### Statements under the flag -/

namespace Operation

/-- The cells that an operation writes, in the order of their placeholders. -/
def cells : Operation → List Json
  | insert rows _ => rows.flatMap fun row =>
      (columns rows).map fun column => (Keyed.get? row column).getD .null
  | update _ changes => changes.map Prod.snd
  | find .. | findByIds .. | remove _ | drop => []

/-- The values that are bound after the cells. -/
def conditions : Operation → List Json
  | find filter options => Leaf.allValues filter.leaves ++ pageValues options.page
  | findByIds filter options =>
    Leaf.allValues filter.arraysAsOneOf.leaves ++ pageValues options.page
  | update filter _ | remove filter => Leaf.allValues filter.leaves
  | insert .. | drop => []

theorem values_eq (flags : Flags) (op : Operation) :
    op.values flags = op.cells.map (·.asCell flags) ++ op.conditions := by
  cases op with
  | insert rows returning =>
      rw [values, cells, conditions, List.append_nil, List.map_flatMap]
      simp only [List.map_map]
      rfl
  | update filter changes => simp only [values, cells, conditions, List.map_map, Function.comp_def]
  | _ => rfl

end Operation

/-- Cells are sent as the same arguments under all flags, if the placeholders of those that are
lists take texts. -/
theorem Argument.ofValues_asCell (flags : Flags) {cells : List Json} (rest : List Json)
    {types : List PgType}
    (h : ∀ (i : Nat) (items : List Json), cells[i]? = some (.array items) →
      ∀ type, types[i]? = some type → type.takesText) :
    ofValues types (cells.map (·.asCell flags) ++ rest) = ofValues types (cells ++ rest) := by
  induction cells generalizing types with
  | nil => rfl
  | cons v cells ih =>
      cases types with
      | nil => rfl
      | cons type types =>
          have hrest : ofValues types (cells.map (·.asCell flags) ++ rest) =
              ofValues types (cells ++ rest) := by
            apply ih
            intro i items hitems
            exact h (i + 1) items hitems
          have hconvert : type.convert (v.asCell flags) = type.convert v := by
            cases v with
            | array items => exact type.convert_asCell (h 0 items rfl type rfl) flags (.array items)
            | _ => rfl
          rw [List.map_cons, List.cons_append, List.cons_append, ofValues, ofValues, hconvert,
            hrest]

namespace Flags

/-- A list and what the flag makes of it are the same to every placeholder that is no list, up to
the text of the error, and what the flag makes of it is invalid for every list.  With the flag and
without it the same statement inserts or updates rows, and the same bytes are sent for cells that
are lists if their placeholders take texts or documents. -/
theorem arrayAsJson_agrees {flags : Flags} (hflag : flags.arrayAsJson) :
    (∀ (type : PgType) (items : List Json), (∀ element, type ≠ .list element) →
      (type.convert ((Json.array items).asCell flags)).mapError PgError.code? =
        (type.convert (.array items)).mapError PgError.code?) ∧
    (∀ (element : ElementType) (items : List Json),
      ((PgType.list element).convert ((Json.array items).asCell flags)).mapError PgError.code? =
        .error (some "22P02")) ∧
    ∀ (table : String) (op : Operation) (s : Statement),
      op.statement? { flags with arrayAsJson := false } table = .ok (some s) →
        ∃ s', op.statement? flags table = .ok (some s') ∧ s'.sql = s.sql ∧
          s.params = op.cells ++ op.conditions ∧
          s'.params = op.cells.map (·.asCell flags) ++ op.conditions ∧
          ∀ types : List PgType,
            (∀ (i : Nat) (items : List Json), op.cells[i]? = some (.array items) →
              ∀ type, types[i]? = some type → type.takesText) →
            Argument.ofValues types s'.params = Argument.ofValues types s.params := by
  refine ⟨?_, ?_, ?_⟩
  · intro type items htype
    rw [Json.asCell_array, if_pos hflag]
    exact PgType.convert_string_eq_array htype items
  · intro element items
    rw [Json.asCell_array, if_pos hflag]
    rfl
  · intro table op s hs
    obtain ⟨s', hs'⟩ := (op.valid_iff flags table).mp ((op.valid_iff _ table).mpr ⟨s, hs⟩)
    obtain rfl := Operation.statement?_eq hs
    obtain rfl := Operation.statement?_eq hs'
    have hcells : op.cells.map (·.asCell { flags with arrayAsJson := false }) = op.cells := by
      rw [List.map_congr_left fun v _ => Json.asCell_of_not rfl v, List.map_id']
    have hoff := op.values_eq { flags with arrayAsJson := false }
    rw [hcells] at hoff
    have hon := op.values_eq flags
    refine ⟨_, hs', rfl, hoff, hon, ?_⟩
    intro types htypes
    dsimp only
    rw [hoff, hon]
    exact Argument.ofValues_asCell flags op.conditions htypes

/-- An update of two columns with one list. -/
def listUpdate : Operation :=
  .update ⟨[("id", .operator (.compare .lt (.nat 7)))]⟩
    [("tags", .array [.nat 1, .array [.null]]), ("name", .string "x")]

/-- A list is the same document with the flag and without it, and no truth value either way. -/
theorem arrayAsJson_agrees_update :
    listUpdate.statement? {} "t" =
        .ok (some ⟨"UPDATE \"t\" SET (\"tags\",\"name\") = ($1,$2) WHERE \"id\" < $3",
          [.array [.nat 1, .array [.null]], .string "x", .nat 7]⟩) ∧
      (∃ s', listUpdate.statement? { arrayAsJson := true } "t" = .ok (some s') ∧
        s'.params = [.string "[1,[null]]", .string "x", .nat 7] ∧
        Argument.ofValues [.jsonb, .varchar, .int .four] s'.params =
          Argument.ofValues [.jsonb, .varchar, .int .four]
            [.array [.nat 1, .array [.null]], .string "x", .nat 7]) ∧
      (PgType.bool.convert (.string "[1,[null]]")).mapError PgError.code? =
        (PgType.bool.convert (.array [.nat 1, .array [.null]])).mapError PgError.code? ∧
      ((PgType.list .text).convert (.string "[1,[null]]")).mapError PgError.code? =
        .error (some "22P02") := by
  have hflag : ({ arrayAsJson := true } : Flags).arrayAsJson := rfl
  obtain ⟨hscalars, hlists, hstatements⟩ := arrayAsJson_agrees hflag
  have hoff : listUpdate.statement? {} "t" = .ok (some _) := rfl
  obtain ⟨s', hs', -, hparams, hparams', hsent⟩ := hstatements "t" listUpdate _ hoff
  have htypes : ∀ (i : Nat) (items : List Json), listUpdate.cells[i]? = some (.array items) →
      ∀ type, [PgType.jsonb, .varchar, .int .four][i]? = some type → type.takesText := by
    intro i items hitems type htype
    match i with
    | 0 =>
        cases htype
        rfl
    | 1 => cases hitems
    | i + 2 => cases hitems
  have htext : (Json.array [.nat 1, .array [.null]]).text = "[1,[null]]" := by decide +kernel
  have hbool := hscalars .bool [.nat 1, .array [.null]] (by intro element; simp)
  have htexts := hlists .text [.nat 1, .array [.null]]
  rw [Json.asCell_array, if_pos hflag, htext] at hbool htexts
  refine ⟨hoff, ⟨s', hs', ?_, hsent _ htypes⟩, hbool, htexts⟩
  rw [hparams', ← htext]
  rfl

end Flags

end PgCollections
