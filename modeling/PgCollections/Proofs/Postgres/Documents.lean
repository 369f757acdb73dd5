import PgCollections.Proofs.Json.RoundTrip
import PgCollections.Proofs.Postgres.Literals

/-! # JSON documents sent back

The cell of a JSON column gives the document that is stored, and a placeholder of the type takes a
document.  What is sent for a document other than null is the text of the document, unless it is a
string, which is sent as its own characters (`PgType.convert_cell_of_isDocument`).  The server then
reads the document that was stored, and never does so for a string: the characters of a string are
the text of another document, or of none. -/

namespace PgCollections

/-- The types of JSON documents. -/
def PgType.isDocument (type : PgType) : Bool := type ∈ [PgType.json, .jsonb]

/-- The document that a value stands for, if its text is well-formed. -/
def Datum.document? : Datum → Option Json
  | json text | jsonb text => Json.parse? text
  | scalar _ | list .. => none

namespace PgType

/-- The document that the bytes of a value stand for. -/
def document? (type : PgType) (bytes : Bytes) : Option Json :=
  (Datum.decode? type bytes).bind Datum.document?

/-- A text as the bytes of a document. -/
def documentBytes (type : PgType) (text : String) : Bytes :=
  match type with
  | .jsonb => Datum.documentVersion :: Bytes.ofString text
  | _ => Bytes.ofString text

variable {type : PgType} {d : Json}

theorem isDocument_iff : type.isDocument ↔ type = .json ∨ type = .jsonb := by
  simp [isDocument]

theorem document?_documentBytes (htype : type.isDocument) (text : String) :
    type.document? (type.documentBytes text) = Json.parse? text := by
  rcases isDocument_iff.mp htype with rfl | rfl
  · simp only [document?, documentBytes, Datum.decode?, Bytes.toString?_ofString]
    rfl
  · simp only [document?, documentBytes, Datum.decode?, if_pos, Bytes.toString?_ofString]
    rfl

/-- A document is read of the text that the bytes hold. -/
theorem exists_text_of_document? {bytes : Bytes} (h : type.document? bytes = some d) :
    ∃ text, Json.parse? text = some d := by
  obtain ⟨datum, -, hdatum⟩ := Option.bind_eq_some_iff.mp h
  cases datum with
  | scalar | list => cases hdatum
  | json text => exact ⟨text, hdatum⟩
  | jsonb text => exact ⟨text, hdatum⟩

/-- The cell of a document, and null for a text that is malformed. -/
theorem cell_of_isDocument (bigIntAsNumber : Bool) (htype : type.isDocument) (bytes : Bytes) :
    type.cell bigIntAsNumber (some bytes) = (type.document? bytes).getD .null := by
  rw [cell, document?, Option.bind_some]
  cases hdecode : Datum.decode? type bytes with
  | none => rfl
  | some datum =>
      rcases isDocument_iff.mp htype with rfl | rfl
      · obtain ⟨text, -, rfl⟩ := Option.map_eq_some_iff.mp hdecode
        rfl
      · cases bytes with
        | nil => cases hdecode
        | cons version text =>
            unfold Datum.decode? at hdecode
            dsimp only at hdecode
            split at hdecode
            case isTrue =>
                obtain ⟨text, -, rfl⟩ := Option.map_eq_some_iff.mp hdecode
                rfl
            case isFalse => cases hdecode

/-- For a document the plain text is sent. -/
theorem exists_convert_of_isDocument (htype : type.isDocument) (hnull : d.isNull = false) :
    ∃ datum, type.convert d = .ok (some datum) ∧
      datum.encode = type.documentBytes d.plainText := by
  rcases isDocument_iff.mp htype with rfl | rfl
  · refine ⟨.json d.plainText, ?_, rfl⟩
    rw [convert, hnull]
    rfl
  · refine ⟨.jsonb d.plainText, ?_, rfl⟩
    rw [convert, hnull]
    rfl

end PgType

namespace Json

variable {d : Json}

/-- The plain text of a document is JSON text of the document, unless it is a string. -/
theorem parse?_plainText_iff (hfits : d.Fits maxDepth) (hexact : d.Exact) :
    parse? d.plainText = some d ↔ d.asString? = none := by
  cases d with
  | string s =>
      refine iff_of_false ?_ (Option.some_ne_none s)
      intro hparse
      have hlonger := length_of_parse?_string hparse
      rw [plainText] at hlonger
      omega
  | _ => exact iff_of_true (parse?_text hfits hexact) rfl

end Json

namespace PgType

variable {type : PgType}

/-- The cell of a document gives the document.  What is sent for it, unless it is null, is its plain
text, of which the server reads the same document if and only if it is no string.  Every value that
texts can stand for is the document of a cell, whatever else it is. -/
theorem convert_cell_of_isDocument (bigIntAsNumber : Bool) (htype : type.isDocument) :
    (∀ bytes d, type.document? bytes = some d → d.isNull = false → d.Exact →
      type.cell bigIntAsNumber (some bytes) = d ∧
        ∃ datum, type.convert d = .ok (some datum) ∧
          datum.encode = type.documentBytes d.plainText ∧
          (type.document? datum.encode = some d ↔ d.asString? = none)) ∧
    ∀ d : Json, d.Exact →
      (d.Fits Json.maxDepth ↔ ∃ bytes, type.document? bytes = some d) := by
  constructor
  · intro bytes d hstored hnull hexact
    obtain ⟨text, hparse⟩ := exists_text_of_document? hstored
    obtain ⟨datum, hsent, hbytes⟩ := exists_convert_of_isDocument htype hnull
    refine ⟨?_, datum, hsent, hbytes, ?_⟩
    · rw [cell_of_isDocument bigIntAsNumber htype, hstored]
      rfl
    · rw [hbytes, document?_documentBytes htype]
      exact Json.parse?_plainText_iff (Json.fits_of_parse? hparse) hexact
  · intro d hexact
    constructor
    · intro hfits
      refine ⟨type.documentBytes d.text, ?_⟩
      rw [document?_documentBytes htype]
      exact Json.parse?_text hfits hexact
    · rintro ⟨bytes, hstored⟩
      obtain ⟨text, hparse⟩ := exists_text_of_document? hstored
      exact Json.fits_of_parse? hparse

/-- A document with a double, with a text that is escaped and with an empty list. -/
def sample : Json :=
  .object [("a", .array [.number (.float ⟨false, 0x3ff8000000000000⟩), .string "x\n", .null]),
    ("b", .array [])]

theorem sample_fits : sample.Fits Json.maxDepth := by
  refine .object (by decide) ?_
  intro field hfield
  simp only [List.mem_cons, List.not_mem_nil, or_false] at hfield
  rcases hfield with rfl | rfl
  · refine .array ?_
    intro v hv
    simp only [List.mem_cons, List.not_mem_nil, or_false] at hv
    rcases hv with rfl | rfl | rfl
    · exact .number trivial
    · exact .string _
    · exact .null
  · refine .array ?_
    intro v hv
    cases hv

theorem sample_exact : sample.Exact := by
  have hdoubles : sample.doubles = [⟨false, 0x3ff8000000000000⟩] := rfl
  intro x hx
  rw [hdoubles, List.mem_singleton] at hx
  subst hx
  decide +kernel

/-- A document is sent back as it was stored, behind the byte of the version. -/
theorem convert_cell_of_isDocument_sample :
    PgType.jsonb.isDocument ∧
      PgType.jsonb.cell false
        (some (Datum.documentVersion ::
          Bytes.ofString "\x7b\"a\":[1.5,\"x\\n\",null],\"b\":[]\x7d")) = sample ∧
      ∃ datum, PgType.jsonb.convert sample = .ok (some datum) ∧
        datum.encode =
          Datum.documentVersion ::
            Bytes.ofString "\x7b\"a\":[1.5,\"x\\n\",null],\"b\":[]\x7d" ∧
        PgType.jsonb.document? datum.encode = some sample := by
  have htype : PgType.jsonb.isDocument := by decide
  have htext : sample.text = "\x7b\"a\":[1.5,\"x\\n\",null],\"b\":[]\x7d" := by decide +kernel
  obtain ⟨hcells, -⟩ := convert_cell_of_isDocument false htype
  have hparse := Json.parse?_text sample_fits sample_exact
  have hstored := document?_documentBytes htype sample.text
  rw [hparse, htext] at hstored
  obtain ⟨hcell, datum, hsent, hbytes, hback⟩ := hcells _ _ hstored rfl sample_exact
  have hplain : sample.plainText = sample.text := rfl
  rw [hplain, htext] at hbytes
  exact ⟨htype, hcell, datum, hsent, hbytes, hback.mpr rfl⟩

/-- Lists inside each other: one more than the level says. -/
def nested : Nat → Json
  | 0 => .array []
  | level + 1 => .array [nested level]

theorem nested_fits (level : Nat) : (nested level).Fits (level + 1) := by
  induction level with
  | zero =>
      refine .array ?_
      intro v hv
      cases hv
  | succ level ih =>
      refine .array ?_
      intro v hv
      obtain rfl := List.mem_singleton.mp hv
      exact ih

theorem nested_exact (level : Nat) : (nested level).Exact := by
  have hdoubles : (nested level).doubles = [] := by
    induction level with
    | zero => rfl
    | succ level ih =>
        rw [nested, Json.doubles, Json.itemDoubles, ih, Json.itemDoubles, List.append_nil]
  intro x hx
  rw [hdoubles] at hx
  cases hx

/-- The text of nested lists begins with as many brackets as there are lists. -/
theorem exists_text_nested (level : Nat) :
    ∃ rest, (nested level).text.toList = List.replicate (level + 1) '[' ++ rest := by
  induction level with
  | zero => exact ⟨[']'], rfl⟩
  | succ level ih =>
      obtain ⟨rest, hrest⟩ := ih
      refine ⟨rest ++ [']'], ?_⟩
      rw [nested, Json.toList_text_array, List.map_singleton, List.replicate_succ]
      simp [hrest]

/-- A text in a document column is sent without its quotes, and can then be read as a number.  A
document with one list more than the reader allows is read as null. -/
theorem convert_cell_of_isDocument_bareText :
    PgType.json.document? (Bytes.ofString "\"5\"") = some (.string "5") ∧
      PgType.json.cell false (some (Bytes.ofString "\"5\"")) = .string "5" ∧
      PgType.json.convert (.string "5") = .ok (some (.json "5")) ∧
      PgType.json.document? (Datum.json "5").encode = some (.int 5) ∧
      Json.parse? (nested 127).text 128 = some (nested 127) ∧
      PgType.json.cell false (some (Bytes.ofString (nested 127).text)) = .null ∧
      PgType.json.convert .null = .ok none := by
  have htype : PgType.json.isDocument := by decide
  have hnone (x : Double) (hx : x ∈ []) : (Json.Number.float x).isExact := by
    cases hx
  have hfive : (Json.int 5).Fits Json.maxDepth := .number ⟨by decide, by decide⟩
  have hstored : PgType.json.document? (Bytes.ofString "\"5\"") = some (.string "5") :=
    (document?_documentBytes htype _).trans (Json.parse?_text (.string "5") hnone)
  have hsent : PgType.json.document? (Datum.json "5").encode = some (.int 5) :=
    (document?_documentBytes htype _).trans (Json.parse?_text hfive hnone)
  have hdeep : Json.parse? (nested 127).text 128 = some (nested 127) :=
    Json.parse?_text (nested_fits 127) (nested_exact 127)
  obtain ⟨rest, hrest⟩ := exists_text_nested 127
  have hrefused : PgType.json.document? (Bytes.ofString (nested 127).text) = none :=
    (document?_documentBytes htype _).trans (Json.parse?_brackets (by decide) hrest)
  refine ⟨hstored, ?_, rfl, hsent, hdeep, ?_, rfl⟩
  · rw [cell_of_isDocument false htype, hstored]
    rfl
  · rw [cell_of_isDocument false htype, hrefused]
    rfl

end PgType

end PgCollections
