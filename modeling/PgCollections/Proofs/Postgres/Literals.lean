import PgCollections.Proofs.Postgres.LiteralFormat
import PgCollections.Proofs.Postgres.Resending
import PgCollections.Proofs.Text.Hex

/-! # Values written as literals

Dates, local times, exact decimals and identifiers are read as texts, each written by a rule of its
own, and a placeholder of the type reads the text by another one.  The reader takes whatever the
rule writes: the text of a cell is sent as the value of the cell, with the one condition that a
decimal has to be within the limits of decimals that are read
(`PgType.convert_cell_of_isLiteral`). -/

namespace PgCollections

namespace Scalar

/-! ### Reading literals -/

theorem ofJson_date {d : Date} (h : d.isValid) : ofJson .date (.string d.text) = .ok (.date d) := by
  simp only [ofJson, Json.asString?, Option.bind_some, Date.ofText?_text h]
  rfl

theorem ofJson_timestamp {t : Timestamp} (h : t.date.isValid) :
    ofJson .timestamp (.string t.localText) = .ok (.timestamp t) := by
  simp only [ofJson, Json.asString?, Option.bind_some, Timestamp.ofLocal?_localText h]
  rfl

theorem ofJson_uuid (u : Uuid) : ofJson .uuid (.string u.text) = .ok (.uuid u) := by
  simp only [ofJson, Json.asString?, Option.bind_some, Uuid.ofText?_text]
  rfl

/-- A decimal is read as it was written if it is within the limits, and as another one or not at all
otherwise. -/
theorem ofJson_numeric_iff (x : Numeric) :
    ofJson .numeric (.string x.text) = .ok (.numeric x) ↔ x.isLimited := by
  have htrim : trim x.text.toList = x.text.toList :=
    trim_eq_self fun _ => Numeric.isSpace_of_mem_text
  have hread : readNumeric? (.string x.text) = Numeric.ofText? x.text.toList := by
    simp only [readNumeric?, Json.asTrimmed?, Json.asString?, Option.map_some, htrim,
      Option.bind_eq_bind, Option.bind_some]
  rw [ofJson, hread]
  constructor
  · intro h
    cases hvalue : Numeric.ofText? x.text.toList with
    | none =>
        rw [hvalue] at h
        cases h
    | some y =>
        rw [hvalue] at h
        have hsame : y = x := by
          cases h
          rfl
        rw [← hsame]
        exact Numeric.isLimited_of_ofText? hvalue
  · intro h
    rw [Numeric.ofText?_text h]
    rfl

end Scalar

namespace PgType

variable {type : PgType} {datum : Datum}

/-- A cell that can be read gives its value as JSON. -/
theorem cell_of_decode? {bytes : Bytes} (h : Datum.decode? type bytes = some datum)
    (bigIntAsNumber : Bool) :
    type.cell bigIntAsNumber (some bytes) = datum.toJson bigIntAsNumber := by
  rw [cell, Option.bind_some, h]
  rfl

/-- A scalar is sent from a text if the text is read as the scalar. -/
theorem convert_string_eq_iff (htype : type.isScalar) (s : String) (x : Scalar) :
    type.convert (.string s) = .ok (some (.scalar x)) ↔ Scalar.ofJson type (.string s) = .ok x :=
  convert_eq_scalar_iff htype rfl x

/-- The cell of a date, of a local time, of an exact decimal or of an identifier gives a text.  The
text is sent as the very value of the cell, whatever the year of a date or of a time is, if and only
if a decimal is within the limits.  Within the limits, every value of the type is the value of some
cell, and the server reads what is sent as the value that it keeps. -/
theorem convert_cell_of_isLiteral (bigIntAsNumber : Bool) (htype : type.isLiteral) :
    (∀ bytes datum, Datum.decode? type bytes = some datum →
      ∃ s, type.cell bigIntAsNumber (some bytes) = .string s ∧
        (type.convert (.string s) = .ok (some datum) ↔ datum.isLimited)) ∧
    ∀ datum : Datum, datum.isLimited →
      (datum.IsLiteral type ↔ ∃ bytes, Datum.decode? type bytes = some datum) ∧
      (datum.IsLiteral type → Datum.decode? type datum.encode = some datum.kept) := by
  refine ⟨?_, fun datum hlimited => ⟨Datum.isLiteral_iff htype hlimited, fun hliteral =>
    Datum.decode?_encode_literal hliteral hlimited⟩⟩
  intro bytes datum h
  rw [cell_of_decode? h]
  rcases isLiteral_iff.mp htype with rfl | rfl | rfl | rfl
  all_goals obtain ⟨x, hx, rfl⟩ := Option.map_eq_some_iff.mp h
  · obtain ⟨d, hd, rfl⟩ := Option.map_eq_some_iff.mp hx
    have hread := Scalar.ofJson_date (Scalar.isValid_of_decodeDate? hd)
    exact ⟨d.text, rfl, iff_of_true ((convert_string_eq_iff rfl _ _).mpr hread) rfl⟩
  · obtain ⟨t, ht, rfl⟩ := Option.map_eq_some_iff.mp hx
    have hread := Scalar.ofJson_timestamp (Scalar.isValid_of_decodeMoment? ht)
    exact ⟨t.localText, rfl, iff_of_true ((convert_string_eq_iff rfl _ _).mpr hread) rfl⟩
  · obtain ⟨n, hn, rfl⟩ := Option.map_eq_some_iff.mp hx
    exact ⟨n.text, rfl, (convert_string_eq_iff rfl _ _).trans (Scalar.ofJson_numeric_iff n)⟩
  · obtain ⟨u, hu, rfl⟩ := Option.map_eq_some_iff.mp hx
    have hread := Scalar.ofJson_uuid u
    exact ⟨u.text, rfl, iff_of_true ((convert_string_eq_iff rfl _ _).mpr hread) rfl⟩

/-- A decimal with as many digits as there is room for, the last of them a zero. -/
def manyDigits : Numeric := ⟨true, 79228162514264337593543950330, 28⟩

/-- The bytes of `manyDigits`: seven groups behind the point and one before it. -/
def manyDigitsCell : Bytes :=
  [0, 8, 0, 0, 0x40, 0, 0, 28, 0, 7, 36, 12, 6, 89, 5, 146, 16, 241, 23, 47, 17, 43, 1, 74]

/-- An identifier whose digits are written with letters. -/
def sampleUuid : Uuid :=
  ⟨[0xa1, 0xa2, 0xa3, 0xa4, 0xb1, 0xb2, 0xc1, 0xc2, 0xd1, 0xd2, 0xd3, 0xd4, 0xd5, 0xd6, 0xd7, 0xd8],
    rfl⟩

/-- The last date there is, a time with microseconds in a year that is written with a sign, a
decimal with all its digits, and an identifier are sent back.  The server reads all of them from
what is sent. -/
theorem convert_cell_of_isLiteral_extremes :
    (PgType.date.isLiteral ∧
      PgType.date.cell false (some [0x05, 0xa9, 0xd1, 0x6f]) = .string "+262142-12-31" ∧
      PgType.date.convert (.string "+262142-12-31") =
        .ok (some (.scalar (.date ⟨262142, 12, 31⟩))) ∧
      Datum.decode? .date (Datum.scalar (.date ⟨262142, 12, 31⟩)).encode =
        some (.scalar (.date ⟨262142, 12, 31⟩))) ∧
    (PgType.timestamp.isLiteral ∧
      PgType.timestamp.cell false (some [0x04, 0x61, 0x25, 0x85, 0x73, 0xf5, 0xa0, 0xd5]) =
        .string "+12000-02-29 23:59:59.000789" ∧
      PgType.timestamp.convert (.string "+12000-02-29 23:59:59.000789") =
        .ok (some (.scalar (.timestamp ⟨315574703999000789000⟩))) ∧
      Datum.decode? .timestamp (Datum.scalar (.timestamp ⟨315574703999000789000⟩)).encode =
        some (.scalar (.timestamp ⟨315574703999000789000⟩))) ∧
    (PgType.numeric.isLiteral ∧ manyDigits.isLimited ∧
      PgType.numeric.cell false (some manyDigitsCell) =
        .string "-7.9228162514264337593543950330" ∧
      PgType.numeric.convert (.string "-7.9228162514264337593543950330") =
        .ok (some (.scalar (.numeric manyDigits))) ∧
      Datum.decode? .numeric (Datum.scalar (.numeric manyDigits)).encode =
        some (.scalar (.numeric manyDigits))) ∧
    (PgType.uuid.isLiteral ∧
      PgType.uuid.cell false (some sampleUuid.bytes) =
        .string "a1a2a3a4-b1b2-c1c2-d1d2-d3d4d5d6d7d8" ∧
      PgType.uuid.convert (.string "a1a2a3a4-b1b2-c1c2-d1d2-d3d4d5d6d7d8") =
        .ok (some (.scalar (.uuid sampleUuid))) ∧
      Datum.decode? .uuid (Datum.scalar (.uuid sampleUuid)).encode =
        some (.scalar (.uuid sampleUuid))) := by
  obtain ⟨hdates, hdateValues⟩ := @convert_cell_of_isLiteral .date false (by decide)
  obtain ⟨htimes, htimeValues⟩ := @convert_cell_of_isLiteral .timestamp false (by decide)
  obtain ⟨hnumbers, hnumberValues⟩ := @convert_cell_of_isLiteral .numeric false (by decide)
  obtain ⟨huuids, huuidValues⟩ := @convert_cell_of_isLiteral .uuid false (by decide)
  refine ⟨⟨by decide, rfl, ?_, (hdateValues _ rfl).2 (.date (by decide))⟩,
    ⟨by decide, rfl, ?_, (htimeValues _ rfl).2 (.timestamp (by decide) (by decide))⟩,
    ⟨by decide, by decide, rfl, ?_, (hnumberValues _ (by decide)).2 (.numeric _)⟩,
    ⟨by decide, rfl, ?_, (huuidValues _ rfl).2 (.uuid _)⟩⟩
  · obtain ⟨s, hs, hsent⟩ := hdates [0x05, 0xa9, 0xd1, 0x6f] (.scalar (.date ⟨262142, 12, 31⟩)) rfl
    cases hs
    exact hsent.mpr rfl
  · obtain ⟨s, hs, hsent⟩ := htimes [0x04, 0x61, 0x25, 0x85, 0x73, 0xf5, 0xa0, 0xd5]
      (.scalar (.timestamp ⟨315574703999000789000⟩)) rfl
    cases hs
    exact hsent.mpr rfl
  · obtain ⟨s, hs, hsent⟩ := hnumbers manyDigitsCell (.scalar (.numeric manyDigits)) rfl
    cases hs
    exact hsent.mpr (by decide)
  · obtain ⟨s, hs, hsent⟩ := huuids sampleUuid.bytes (.scalar (.uuid sampleUuid)) rfl
    cases hs
    exact hsent.mpr rfl

end PgType

end PgCollections
