import PgCollections.Proofs.Postgres.Execution
import PgCollections.Proofs.Postgres.Resending

/-! # Conversions

A value for a placeholder is converted or refused.  `PgType.Conversion` lists what it can be
converted to, and `PgType.Refused` the two ways of refusal: it is no value of the type, or it is a
number that is too large for the type.  `PgType.convert_spec` says that there is nothing else.

A refusal has no cause in the driver.  Its code says which of the ways it is, and its message quotes
the value (`PgError.quoted`): two messages about the same type and with the same code differ in the
quotation only (`PgType.Refused.message_eq_iff`). -/

namespace PgCollections

/-- What the message of an error says of a value. -/
def PgError.quoted : PgError → String
  | .invalidInput _ v => v.text
  | .outOfRange _ n => toString n
  | .driver _ | .countMismatch .. => ""

/-- The code tells the ways of refusal apart. -/
theorem PgError.code?_ne (type type' : PgType) (v : Json) (n : Int) :
    (invalidInput type v).code? ≠ (outOfRange type' n).code? := by
  change some SqlState.invalidTextRepresentation ≠ some SqlState.numericValueOutOfRange
  decide

/-! ### Scalars -/

namespace Scalar

variable {type : PgType} {v : Json} {x : Scalar} {refusal : Refusal}

theorem orInvalid_eq_ok_iff {read : Option Scalar} : orInvalid read = .ok x ↔ read = some x := by
  cases read <;> simp [orInvalid]

theorem eq_invalid_of_orInvalid {read : Option Scalar} (h : orInvalid read = .error refusal) :
    refusal = .invalid := by
  cases read with
  | some x => cases h
  | none => exact (Except.error.inj h).symm

/-- A scalar that was read for a type has this type or none of its own. -/
theorem type?_of_ofJson (h : ofJson type v = .ok x) : x.type?.getD type = type := by
  cases type with
  | bool | float4 | float8 | numeric | uuid | timestamptz | timestamp | date =>
      obtain ⟨_, -, rfl⟩ := Option.map_eq_some_iff.mp (orInvalid_eq_ok_iff.mp h)
      rfl
  | int width =>
      simp only [ofJson, readInt] at h
      split at h
      case h_1 => cases h
      case h_2 n _ =>
          split at h
          case isTrue =>
              obtain rfl := Except.ok.inj h
              rfl
          case isFalse => cases h
  | json | jsonb | text | varchar | char | name | unknown | list | other =>
      obtain rfl := Except.ok.inj h
      rfl

theorem refusal_of_readInt {width : IntWidth} (h : readInt width v = .error refusal) :
    refusal = .invalid ∨
      ∃ n, readInt? v = some n ∧ width.holds n = false ∧ refusal = .outOfRange n := by
  unfold readInt at h
  split at h
  case h_1 => exact .inl (Except.error.inj h).symm
  case h_2 n hread =>
      split at h
      case isTrue => cases h
      case isFalse hholds =>
          exact .inr ⟨n, hread, Bool.eq_false_iff.mpr hholds, (Except.error.inj h).symm⟩

/-- Only whole numbers are refused for their size. -/
theorem refusal_of_ofJson (h : ofJson type v = .error refusal) :
    refusal = .invalid ∨ ∃ width n, type = .int width ∧ readInt? v = some n ∧
      width.holds n = false ∧ refusal = .outOfRange n := by
  cases type with
  | int width =>
      obtain hinvalid | ⟨n, hread, hholds, hrefusal⟩ := refusal_of_readInt h
      · exact .inl hinvalid
      · exact .inr ⟨width, n, rfl, hread, hholds, hrefusal⟩
  | bool | float4 | float8 | numeric | uuid | timestamptz | timestamp | date =>
      exact .inl (eq_invalid_of_orInvalid h)
  | json | jsonb | text | varchar | char | name | unknown | list | other => cases h

end Scalar

/-! ### Values -/

namespace PgType

/-- What a value is converted to for a placeholder of a type. -/
inductive Conversion : PgType → Json → Option Datum → Prop
  | null {type : PgType} {v : Json} (hv : v.isNull) : Conversion type v none
  | list {element : ElementType} {items : List Json} {xs : List Scalar}
      (h : List.Forall₂ (fun v x => Scalar.ofJson element.type v = .ok x) items xs) :
      Conversion (.list element) (.array items) (some (.list element xs))
  | json {v : Json} (hv : v.isNull = false) : Conversion .json v (some (.json v.plainText))
  | jsonb {v : Json} (hv : v.isNull = false) : Conversion .jsonb v (some (.jsonb v.plainText))
  | scalar {type : PgType} {v : Json} {x : Scalar} (htype : type.isScalar)
      (hv : v.isNull = false) (h : Scalar.ofJson type v = .ok x) :
      Conversion type v (some (.scalar x))

/-- How a value is refused for a placeholder of a type. -/
inductive Refused : PgType → Json → PgError → Prop
  | invalid {type : PgType} {v : Json} : Refused type v (.invalidInput type v)
  | outOfRange {width : IntWidth} {v : Json} {n : Int} (hread : Scalar.readInt? v = some n)
      (hholds : width.holds n = false) : Refused (.int width) v (.outOfRange (.int width) n)

variable {type : PgType} {v v' : Json} {datum : Option Datum} {e e' : PgError}

theorem convertList_spec (element : ElementType) (v : Json) :
    match convertList element v with
    | .ok d => Conversion (.list element) v (some d)
    | .error e => Refused (.list element) v e := by
  unfold convertList
  dsimp only
  cases v with
  | array items =>
      dsimp only
      cases hread : items.mapM (Scalar.ofJson element.type) with
      | ok xs => exact .list (mapM_eq_ok_iff.mp hread)
      | error refusal => exact .invalid
  | _ => exact .invalid

theorem convert_list {element : ElementType} (hv : v.isNull = false) :
    (list element).convert v = (convertList element v).map some := by
  unfold convert
  rw [hv]
  rfl

/-- A value is converted or refused. -/
theorem convert_spec (type : PgType) (v : Json) :
    match type.convert v with
    | .ok datum => Conversion type v datum
    | .error e => Refused type v e := by
  cases hv : v.isNull with
  | true =>
      unfold convert
      rw [if_pos hv]
      exact .null hv
  | false =>
      cases htype : type.isScalar with
      | true =>
          rw [convert_of_isScalar htype hv]
          cases hread : Scalar.ofJson type v with
          | ok x => exact .scalar htype hv hread
          | error refusal =>
              obtain rfl | ⟨width, n, rfl, hint, hholds, rfl⟩ := Scalar.refusal_of_ofJson hread
              · exact .invalid
              · exact .outOfRange hint hholds
      | false =>
          cases type with
          | list element =>
              have hlist := convertList_spec element v
              rw [convert_list hv]
              cases hconvert : convertList element v with
              | ok d | error e =>
                  rw [hconvert] at hlist
                  exact hlist
          | json =>
              unfold convert
              rw [hv]
              exact .json hv
          | jsonb =>
              unfold convert
              rw [hv]
              exact .jsonb hv
          | _ => cases htype

theorem conversion_of_convert (h : type.convert v = .ok datum) : Conversion type v datum := by
  have hspec := convert_spec type v
  rwa [h] at hspec

theorem refused_of_convert (h : type.convert v = .error e) : type.Refused v e := by
  have hspec := convert_spec type v
  rwa [h] at hspec

namespace Refused

/-- The driver has no part in it. -/
theorem cause?_eq_none (h : type.Refused v e) : e.cause? = none := by
  cases h <;> rfl

/-- Two messages about the same type and with the same code differ in the quotation only. -/
theorem message_eq_iff (h : type.Refused v e) (h' : type.Refused v' e')
    (hcode : e.code? = e'.code?) : e.message = e'.message ↔ e.quoted = e'.quoted := by
  cases h with
  | invalid => cases h' with
    | invalid =>
        dsimp only [PgError.message, PgError.quoted]
        exact String.append_right_inj _
    | outOfRange => exact absurd hcode (PgError.code?_ne _ _ _ _)
  | outOfRange => cases h' with
    | invalid => exact absurd hcode.symm (PgError.code?_ne _ _ _ _)
    | outOfRange =>
        dsimp only [PgError.message, PgError.quoted]
        rw [String.append_left_inj, String.append_left_inj, String.append_right_inj]

end Refused

end PgType

/-! ### Statements -/

/-- The conversion of all values fails at one of them. -/
theorem Argument.exists_convert_eq_error {types : List PgType} {values : List Json} {e : PgError}
    (h : ofValues types values = .error e) :
    ∃ (i : Nat) (type : PgType) (v : Json), types[i]? = some type ∧ values[i]? = some v ∧
      type.convert v = .error e := by
  induction types generalizing values with
  | nil => cases h
  | cons type types ih => cases values with
    | nil => cases h
    | cons v values =>
        cases hconvert : type.convert v with
        | error failure =>
            rw [ofValues, hconvert] at h
            obtain rfl := Except.error.inj h
            exact ⟨0, type, v, rfl, rfl, hconvert⟩
        | ok datum =>
            cases hrest : ofValues types values with
            | ok arguments =>
                rw [ofValues, hconvert, hrest] at h
                cases h
            | error failure =>
                rw [ofValues, hconvert, hrest] at h
                obtain rfl := Except.error.inj h
                obtain ⟨i, t, w, ht, hw, hfailure⟩ := ih hrest
                exact ⟨i + 1, t, w, ht, hw, hfailure⟩

/-- No conversion fails because of the driver. -/
theorem Argument.cause?_of_ofValues {types : List PgType} {values : List Json} {e : PgError}
    (h : ofValues types values = .error e) : e.cause? = none := by
  obtain ⟨i, type, v, -, -, hconvert⟩ := exists_convert_eq_error h
  exact (PgType.refused_of_convert hconvert).cause?_eq_none

end PgCollections
