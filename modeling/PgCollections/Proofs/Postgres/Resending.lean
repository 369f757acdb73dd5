import PgCollections.Postgres.Gateway
import PgCollections.Proofs.Number.Text
import PgCollections.Proofs.Postgres.Format
import PgCollections.Proofs.Time.Text
import PgCollections.Proofs.Traversal

/-! # Sending back what was read

A cell is read as JSON, and a placeholder takes JSON.  What is read of a cell can be given for a
placeholder of the same type: truth values, whole numbers, texts and lists of these are sent as they
were (`PgType.convert_cell_of_isPlain`), whether wide numbers are read as numbers or as texts.
Instants are read as texts of which the reader takes those with a year of four digits only
(`PgType.convert_cell_timestamptz`). -/

namespace PgCollections

open Scan

/-! ### Widths -/

/-- The numbers of every width are within 64 bits, so that reading them never fails for size. -/
theorem fitsInt64_of_holds {width : IntWidth} {n : Int} (h : width.holds n) : fitsInt64 n := by
  rw [IntWidth.holds_iff, Bytes.Fits] at h
  simp only [fitsInt64, decide_eq_true_eq, Nat.pow_eq]
  cases width <;> simp only [IntWidth.bytes] at h <;> norm_num at h ⊢ <;> omega

namespace Scalar

variable {element : ElementType} {x : Scalar}

/-- A number is read from its decimal text. -/
theorem readInt?_toString {n : Int} (h : fitsInt64 n) :
    readInt? (.string (toString n)) = some n := by
  have htrim : trim (toString n).toList = (toString n).toList :=
    trim_eq_self fun _ => isSpace_of_mem_toString
  have hall : scanInt.all? (toString n).toList = some n :=
    all?_eq_some (reads_scanInt n (stops_nil _))
  simp only [readInt?, Json.asTrimmed?, Json.asString?, Option.map_some, htrim,
    Option.bind_eq_bind, Option.bind_some, hall, if_pos h]

/-- A number is read from whichever form it is written in. -/
theorem readInt?_toJson {width : IntWidth} {n : Int} (h : width.holds n) (bigIntAsNumber : Bool) :
    readInt? ((int width n).toJson bigIntAsNumber) = some n := by
  have hfits := fitsInt64_of_holds h
  have hnumber : readInt? (.int n) = some n := if_pos hfits
  cases width with
  | eight => cases bigIntAsNumber with
    | false => exact readInt?_toString hfits
    | true => exact hnumber
  | _ => exact hnumber

/-- A value is read from its JSON form. -/
theorem ofJson_toJson (h : x.HasType element) (bigIntAsNumber : Bool) :
    ofJson element.type (x.toJson bigIntAsNumber) = .ok x := by
  cases h with
  | int hn =>
      simp only [ElementType.type, ofJson, readInt, readInt?_toJson hn, if_pos hn]
  | _ => rfl

end Scalar

namespace PgType

variable {type : PgType} {datum : Datum}

theorem convert_of_isScalar (htype : type.isScalar) {v : Json} (hv : v.isNull = false) :
    type.convert v =
      some <$> ((Scalar.ofJson type v).mapError (type.refusal v)).map Datum.scalar := by
  unfold convert
  rw [hv]
  cases type with
  | list | json | jsonb => cases htype
  | _ => rfl

/-- A scalar is sent for a value if the value is read as the scalar. -/
theorem convert_eq_scalar_iff (htype : type.isScalar) {v : Json} (hv : v.isNull = false)
    (x : Scalar) :
    type.convert v = .ok (some (.scalar x)) ↔ Scalar.ofJson type v = .ok x := by
  rw [convert_of_isScalar htype hv]
  cases Scalar.ofJson type v with
  | error refusal =>
      constructor
      · intro h
        cases h
      · intro h
        cases h
  | ok y =>
      constructor
      · intro h
        cases h
        rfl
      · intro h
        cases h
        rfl

/-- The cell of an instant gives a text that is sent as the instant if its year has four digits.
Other years are written with a sign, and the text is refused. -/
theorem convert_cell_timestamptz (bigIntAsNumber : Bool) {bytes : Bytes}
    (h : Datum.decode? .timestamptz bytes = some datum) :
    ∃ t : Timestamp, datum = .scalar (.timestamptz t) ∧
      PgType.timestamptz.convert (PgType.timestamptz.cell bigIntAsNumber (some bytes)) =
        if 0 ≤ t.date.year ∧ t.date.year ≤ 9999 then .ok (some datum)
        else .error (.invalidInput .timestamptz (.string t.instantText)) := by
  obtain ⟨x, hx, rfl⟩ := Option.map_eq_some_iff.mp h
  obtain ⟨t, ht, rfl⟩ := Option.map_eq_some_iff.mp hx
  have hread := Timestamp.ofInstant?_instantText (Scalar.isValid_of_decodeMoment? ht)
  refine ⟨t, rfl, ?_⟩
  have hjson : PgType.timestamptz.cell bigIntAsNumber (some bytes) = .string t.instantText := by
    rw [cell, Option.bind_some, h]
    rfl
  rw [hjson, convert_of_isScalar rfl rfl]
  simp only [Scalar.ofJson, Json.asString?, Option.bind_some, hread]
  split <;> rfl

/-- An instant with microseconds, on a leap day, is sent back. -/
theorem convert_cell_timestamptz_leapDay :
    Datum.decode? .timestamptz [0x00, 0x02, 0xb5, 0x8c, 0xd3, 0x54, 0x7f, 0xb4] =
        some (.scalar (.timestamptz ⟨762566399000500000⟩)) ∧
      PgType.timestamptz.cell false (some [0x00, 0x02, 0xb5, 0x8c, 0xd3, 0x54, 0x7f, 0xb4]) =
        .string "2024-02-29T23:59:59.000500+00:00" ∧
      PgType.timestamptz.convert
        (PgType.timestamptz.cell false (some [0x00, 0x02, 0xb5, 0x8c, 0xd3, 0x54, 0x7f, 0xb4])) =
          .ok (some (.scalar (.timestamptz ⟨762566399000500000⟩))) := by
  have hdecode : Datum.decode? .timestamptz [0x00, 0x02, 0xb5, 0x8c, 0xd3, 0x54, 0x7f, 0xb4] =
      some (.scalar (.timestamptz ⟨762566399000500000⟩)) := rfl
  refine ⟨hdecode, rfl, ?_⟩
  obtain ⟨t, ht, hconvert⟩ := convert_cell_timestamptz false hdecode
  cases ht
  rw [hconvert]
  exact if_pos (by decide)

/-- The first instant with five digits in its year is read, and what is read of it is refused. -/
theorem convert_cell_timestamptz_tenThousand :
    Datum.decode? .timestamptz [0x03, 0x80, 0xe7, 0x0b, 0x91, 0x3b, 0x80, 0x00] =
        some (.scalar (.timestamptz ⟨252455616000000000000⟩)) ∧
      PgType.timestamptz.cell false (some [0x03, 0x80, 0xe7, 0x0b, 0x91, 0x3b, 0x80, 0x00]) =
        .string "+10000-01-01T00:00:00+00:00" ∧
      PgType.timestamptz.convert (.string "+10000-01-01T00:00:00+00:00") =
        .error (.invalidInput .timestamptz (.string "+10000-01-01T00:00:00+00:00")) :=
  ⟨rfl, rfl, rfl⟩

end PgType

end PgCollections
