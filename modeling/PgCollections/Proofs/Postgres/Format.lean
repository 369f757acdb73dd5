import PgCollections.Proofs.Postgres.StoredList

/-! # Plain values in the server's format

The plain types are those of truth values, whole numbers and texts, and of lists of these.
`Datum.HasType` tells the values of a plain type.  They are read back from their bytes
(`Datum.decode?_encode`), and nothing else is ever read of such a type
(`Datum.hasType_of_decode?`). -/

namespace PgCollections

/-! ### Values of plain types -/

/-- A value of an element type: a truth value, a number within the width, or a text. -/
inductive Scalar.HasType : ElementType → Scalar → Prop
  | bool (b : Bool) : HasType .bool (.bool b)
  | int {width : IntWidth} {n : Int} (h : width.holds n) : HasType (.int width) (.int width n)
  | text (s : String) : HasType .text (.text s)
  | varchar (s : String) : HasType .varchar (.text s)

/-- A value of a type: an element, or a list whose count and whose elements' lengths the format has
room for. -/
inductive Datum.HasType : PgType → Datum → Prop
  | scalar {element : ElementType} {x : Scalar} (hx : x.HasType element) (type : PgType)
      (htype : type = element.type) : HasType type (.scalar x)
  | list {element : ElementType} {items : List Scalar} (hcount : items.length < Datum.lengthBound)
      (hitems : ∀ x ∈ items, x.HasType element ∧ x.encode.length < Datum.lengthBound) :
      HasType (.list element) (.list element items)

/-! ### Scalars -/

namespace IntWidth

/-- The numbers of a width are those that its bytes can hold. -/
theorem holds_iff (width : IntWidth) (n : Int) : width.holds n ↔ Bytes.Fits width.bytes n := by
  simp only [holds, Bytes.Fits, Nat.pow_eq]
  cases width <;> simp only [bytes] <;> norm_num <;> omega

end IntWidth

namespace Scalar

variable {element : ElementType} {x : Scalar}

theorem leading?_self (bytes : Bytes) : leading? bytes.length bytes = some bytes := by
  have htake := Bytes.take?_append (rfl : bytes.length = bytes.length) []
  rw [List.append_nil] at htake
  rw [leading?, htake]
  rfl

theorem leading?_ofInt (width : Nat) (n : Int) :
    leading? width (Bytes.ofInt width n) = some (Bytes.ofInt width n) := by
  have hself := leading?_self (Bytes.ofInt width n)
  rwa [Bytes.length_ofInt] at hself

theorem length_of_leading? {width : Nat} {bytes first : Bytes}
    (h : leading? width bytes = some first) : first.length = width ∧ width ≤ bytes.length := by
  unfold leading? Bytes.take? at h
  split at h
  case isTrue hle =>
      obtain rfl := Option.some.inj h
      exact ⟨by rw [List.length_take, Nat.min_eq_left hle], hle⟩
  case isFalse => cases h

/-- A value is read back from its bytes. -/
theorem decode?_encode (h : x.HasType element) : decode? element.type x.encode = some x := by
  cases h with
  | bool b => cases b <;> rfl
  | @int width n hn =>
      simp only [ElementType.type, encode, decode?, leading?_ofInt, Option.map_some,
        Bytes.toInt_ofInt ((width.holds_iff n).mp hn)]
  | text s | varchar s =>
      simp only [ElementType.type, encode, decode?, Bytes.toString?_ofString, Option.map_some]

/-- What is read is a value of the type, with no more bytes than it was read from. -/
theorem hasType_of_decode? (helement : element ≠ .float8) {bytes : Bytes}
    (h : decode? element.type bytes = some x) :
    x.HasType element ∧ x.encode.length ≤ bytes.length := by
  cases element with
  | bool =>
      obtain ⟨first, hfirst, rfl⟩ := Option.map_eq_some_iff.mp h
      exact ⟨.bool _, (length_of_leading? hfirst).2⟩
  | int width =>
      obtain ⟨first, hfirst, rfl⟩ := Option.map_eq_some_iff.mp h
      obtain ⟨hlength, hle⟩ := length_of_leading? hfirst
      have hfits := Bytes.fits_toInt first
      rw [hlength] at hfits
      refine ⟨.int ((width.holds_iff _).mpr hfits), ?_⟩
      rwa [encode, Bytes.length_ofInt]
  | float8 => exact absurd rfl helement
  | text =>
      obtain ⟨s, hs, rfl⟩ := Option.map_eq_some_iff.mp h
      refine ⟨.text s, ?_⟩
      rw [encode, Bytes.ofString_of_toString? hs]
  | varchar =>
      obtain ⟨s, hs, rfl⟩ := Option.map_eq_some_iff.mp h
      refine ⟨.varchar s, ?_⟩
      rw [encode, Bytes.ofString_of_toString? hs]

/-- A moment that was read is on a date that exists. -/
theorem isValid_of_decodeMoment? {bytes : Bytes} {t : Timestamp}
    (h : decodeMoment? bytes = some t) : t.date.isValid := by
  obtain ⟨first, -, hmicros⟩ := Option.bind_eq_some_iff.mp h
  simp only [Timestamp.ofMicros?] at hmicros
  split at hmicros
  case isTrue hvalid =>
      obtain rfl := Option.some.inj hmicros
      exact hvalid
  case isFalse => cases hmicros

end Scalar

/-! ### Lists -/

namespace Datum

variable {element : ElementType} {items : List Scalar}

/-- Elements that were read are values of their type, with lengths that the format has room for. -/
theorem hasType_of_decodeElements? (helement : element ≠ .float8) {count : Nat} {bytes : Bytes}
    (h : decodeElements? element.type count bytes = some items) :
    items.length = count ∧ ∀ x ∈ items, x.HasType element ∧ x.encode.length < lengthBound := by
  induction count generalizing bytes items with
  | zero =>
      obtain rfl := Option.some.inj h
      exact ⟨rfl, by simp⟩
  | succ count ih =>
      simp only [decodeElements?, Option.bind_eq_bind, Option.bind_eq_some_iff] at h
      obtain ⟨⟨length, bytes⟩, hlength, h⟩ := h
      split at h
      case isTrue => cases h
      case isFalse hneg =>
          simp only [Option.bind_eq_some_iff] at h
          obtain ⟨⟨own, rest⟩, hown, x, hx, items, hitems, hcons⟩ := h
          obtain rfl := Option.some.inj hcons
          have hbound := Bytes.lt_of_takeInt? hlength
          obtain ⟨htype, hle⟩ := Scalar.hasType_of_decode? helement hx
          obtain ⟨hcount, htypes⟩ := ih hitems
          have hroom : x.encode.length < lengthBound := by
            rw [Bytes.length_of_take? hown] at hle
            unfold lengthBound
            omega
          exact ⟨by rw [List.length_cons, hcount],
            List.forall_mem_cons.mpr ⟨⟨htype, hroom⟩, htypes⟩⟩

/-- The list that the server keeps of the items. -/
def stored (items : List Scalar) (hcount : items.length < lengthBound)
    (hitems : ∀ x ∈ items, x.encode.length < lengthBound) : StoredList where
  dimensions := [(items.length, 1)]
  elements := items.map fun x => some x.encode
  rank_lt := (by decide : 1 < lengthBound)
  fits := by
    have hone : Bytes.Fits 4 1 := ⟨by decide, by decide⟩
    intro dimension hdimension
    obtain rfl := List.mem_singleton.mp hdimension
    exact ⟨hcount, hone⟩
  length_lt := by
    intro bytes hbytes
    obtain ⟨x, hx, rfl⟩ := by simpa using hbytes
    exact hitems x hx
  count_eq := by simp

/-- Items are sent as the list that the server keeps of them. -/
theorem encode_stored (hcount : items.length < lengthBound)
    (hitems : ∀ x ∈ items, x.encode.length < lengthBound) :
    (stored items hcount hitems).encode element = encodeList element items := by
  have hnulls : none ∉ (stored items hcount hitems).elements := by simp [stored]
  have hone : Bytes.ofInt 4 1 = Bytes.ofNat 4 1 := rfl
  rw [StoredList.encode, if_neg hnulls]
  simp only [stored, encodeList, StoredList.encodeDimension, List.flatMap_map,
    List.flatMap_singleton, List.length_singleton, hone, List.append_assoc]
  rfl

/-- Items are read back one after the other. -/
theorem mapM_decode? (h : ∀ x ∈ items, x.HasType element) :
    (items.map fun x => some x.encode).mapM
      (fun bytes => bytes.bind (Scalar.decode? element.type)) = some items := by
  rw [mapM_eq_some_iff, List.forall₂_map_left_iff, List.forall₂_same]
  intro x hx
  exact Scalar.decode?_encode (h x hx)

/-- A list is read back from its bytes. -/
theorem decodeList?_encode (hcount : items.length < lengthBound)
    (hitems : ∀ x ∈ items, x.HasType element ∧ x.encode.length < lengthBound) :
    decodeList? element.type (encodeList element items) = some items := by
  have htypes : ∀ x ∈ items, x.HasType element := fun x hx => (hitems x hx).1
  have hlengths : ∀ x ∈ items, x.encode.length < lengthBound := fun x hx => (hitems x hx).2
  rw [← encode_stored hcount hlengths, StoredList.decodeList?_encode]
  exact mapM_decode? htypes

/-- A list that was read has values of its element type, and as many as the format has room for. -/
theorem hasType_of_decodeList? (helement : element ≠ .float8) {bytes : Bytes}
    (h : decodeList? element.type bytes = some items) :
    items.length < lengthBound ∧
      ∀ x ∈ items, x.HasType element ∧ x.encode.length < lengthBound := by
  unfold decodeList? at h
  simp only [Option.bind_eq_bind, Option.bind_eq_some_iff] at h
  obtain ⟨⟨dimensions, bytes⟩, -, h⟩ := h
  split at h
  case isTrue =>
      obtain rfl := Option.some.inj h
      exact ⟨by decide, by simp⟩
  case isFalse =>
      split at h
      case isTrue => cases h
      case isFalse =>
          simp only [Option.bind_eq_some_iff] at h
          obtain ⟨⟨_, bytes⟩, -, ⟨count, bytes⟩, hcount, ⟨start, bytes⟩, -, h⟩ := h
          split at h
          case isTrue => cases h
          case isFalse =>
              have hbound := Bytes.lt_of_takeInt? hcount
              obtain ⟨hlength, htypes⟩ := hasType_of_decodeElements? helement h
              refine ⟨?_, htypes⟩
              rw [hlength]
              unfold lengthBound
              omega

end Datum

/-! ### Types -/

/-- The types whose values are scalars: neither lists nor documents. -/
def PgType.isScalar : PgType → Bool
  | .list _ | .json | .jsonb => false
  | _ => true

/-- The types whose placeholders take the plain text of a value: documents, texts, and types without
a reader of their own. -/
def PgType.takesText : PgType → Bool
  | .json | .jsonb | .text | .varchar | .char | .name | .unknown | .other _ => true
  | _ => false

theorem ElementType.isScalar_type (element : ElementType) : element.type.isScalar := by
  cases element <;> rfl

/-- The types of truth values, whole numbers and texts, and of lists of these. -/
def PgType.isPlain (type : PgType) : Bool :=
  [ElementType.bool, .int .two, .int .four, .int .eight, .text, .varchar].any fun element =>
    type = element.type ∨ type = .list element

theorem PgType.isPlain_iff {type : PgType} :
    type.isPlain ↔ ∃ element, element ≠ .float8 ∧ (type = element.type ∨ type = .list element) := by
  constructor
  · intro h
    obtain ⟨element, hmem, htype⟩ := List.any_eq_true.mp h
    refine ⟨element, ?_, of_decide_eq_true htype⟩
    rintro rfl
    exact absurd hmem (by decide)
  · rintro ⟨element, helement, htype⟩
    refine List.any_eq_true.mpr ⟨element, ?_, decide_eq_true htype⟩
    cases element with
    | int width => cases width <;> decide
    | float8 => exact absurd rfl helement
    | _ => decide

namespace Datum

variable {type : PgType} {datum : Datum}

theorem decode?_of_isScalar (htype : type.isScalar) (bytes : Bytes) :
    decode? type bytes = (Scalar.decode? type bytes).map scalar := by
  cases type with
  | list | json | jsonb => cases htype
  | _ => rfl

/-- A value is read back from its bytes. -/
theorem decode?_encode (h : datum.HasType type) : decode? type datum.encode = some datum := by
  cases h with
  | scalar hx type htype =>
      subst htype
      rw [decode?_of_isScalar (ElementType.isScalar_type _), encode, Scalar.decode?_encode hx]
      rfl
  | list hcount hitems =>
      simp only [decode?, encode, decodeList?_encode hcount hitems, Option.map_some]

/-- What is read of a plain type is a value of the type. -/
theorem hasType_of_decode? (htype : type.isPlain) {bytes : Bytes}
    (h : decode? type bytes = some datum) : datum.HasType type := by
  obtain ⟨element, helement, rfl | rfl⟩ := PgType.isPlain_iff.mp htype
  · rw [decode?_of_isScalar element.isScalar_type] at h
    obtain ⟨x, hx, rfl⟩ := Option.map_eq_some_iff.mp h
    exact .scalar (Scalar.hasType_of_decode? helement hx).1 _ rfl
  · obtain ⟨items, hitems, rfl⟩ := Option.map_eq_some_iff.mp h
    obtain ⟨hcount, htypes⟩ := hasType_of_decodeList? helement hitems
    exact .list hcount htypes

end Datum

end PgCollections
