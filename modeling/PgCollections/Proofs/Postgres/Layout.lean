import PgCollections.Proofs.Postgres.Documents
import PgCollections.Proofs.Postgres.WholeNumbers

/-! # Layouts of the server

A value without a type of its own is sent as bytes under the described type, and is meant to be in
the server's own layout of that type.  A `Layout` is what the server reads for the types that have
no conversion of their own: a text, a text behind a version, or a number of a fixed width.  Which of
these a type has that the library does not know, and which numbers its values denote, is for the
server to say, and is a parameter here.

The bytes are always the text (`PgType.Raw.encode_eq`), so they are in the layout of texts and of
binary documents.  Where a text has the width of a number by chance, the server reads a number from
it that is not the one the text writes, and that is far from zero (`Json.Misread`).  The main
statement is `PgType.raw_holds_iff`. -/

namespace PgCollections

/-- How the server lays out the values of a type. -/
inductive Layout where
  | text
  /-- A text behind the byte of a version. -/
  | document
  /-- A number in so many bytes, and the numbers that values of the type denote. -/
  | fixed (width : Nat) (denotes : Json → Int → Prop)

/-- The bytes are in the layout, and denote the value. -/
def Layout.Holds : Layout → Json → Bytes → Prop
  | text, v, bytes => bytes = Bytes.ofString v.plainText
  | document, v, bytes => bytes = Datum.documentVersion :: Bytes.ofString v.plainText
  | fixed width denotes, v, bytes => ∃ n, denotes v n ∧ bytes = Bytes.ofInt width n

/-- The layout of a type without a conversion of its own.  The catalogue of the server says what
that of other types is, by their names. -/
def PgType.layout? (catalog : String → Layout) : PgType → Option Layout
  | text | varchar | char | name | unknown | json => some .text
  | jsonb => some .document
  | other spelling => some (catalog spelling)
  | _ => none

/-! ### Texts of numbers -/

namespace Json.Denotes

variable {v : Json} {n : Int}

/-- The text of a number stands in what is sent for it, with nothing but white space around it. -/
theorem exists_plainText (h : v.Denotes n) :
    ∃ before kept after, v.plainText.toList = before ++ kept ++ after ∧ IntText kept n ∧
      (∀ c ∈ before, isSpace c) ∧ ∀ c ∈ after, isSpace c := by
  cases h with
  | number n =>
      refine ⟨[], (toString n).toList, [], ?_, intText_toString n, nofun, nofun⟩
      rw [List.nil_append, List.append_nil]
      rfl
  | text hbefore hkept hafter =>
      exact ⟨_, _, _, String.toList_ofList, hkept, hbefore, hafter⟩

theorem natAbs_lt (h : v.Denotes n) : n.natAbs < 10 ^ v.plainText.toList.length := by
  obtain ⟨before, kept, after, htext, hkept, -⟩ := h.exists_plainText
  refine Nat.lt_of_lt_of_le hkept.natAbs_lt (Nat.pow_le_pow_right (by decide) ?_)
  rw [htext, List.length_append, List.length_append]
  omega

theorem exists_digit (h : v.Denotes n) : ∃ c ∈ v.plainText.toList, c.isDigit := by
  obtain ⟨before, kept, after, htext, hkept, -⟩ := h.exists_plainText
  obtain ⟨c, hc, hdigit⟩ := hkept.exists_digit
  exact ⟨c, by simp [htext, hc], hdigit⟩

theorem toNat_ne_zero (h : v.Denotes n) {c : Char} (hc : c ∈ v.plainText.toList) :
    c.toNat ≠ 0 := by
  obtain ⟨before, kept, after, htext, hkept, hbefore, hafter⟩ := h.exists_plainText
  have hspace {c : Char} (hc : isSpace c) : c.toNat ≠ 0 := by
    intro hzero
    simp [isSpace, hzero] at hc
  rw [htext, List.mem_append, List.mem_append] at hc
  rcases hc with (hc | hc) | hc
  · exact hspace (hbefore c hc)
  · exact hkept.toNat_ne_zero_of_mem hc
  · exact hspace (hafter c hc)

/-- The bytes of the text are never those of the number in a fixed width. -/
theorem ofString_ne_ofInt (h : v.Denotes n) (width : Nat) :
    Bytes.ofString v.plainText ≠ Bytes.ofInt width n := by
  intro hbytes
  obtain ⟨digit, hmem, hdigit⟩ := h.exists_digit
  obtain ⟨c, cs, htext⟩ := List.exists_cons_of_ne_nil (List.ne_nil_of_mem hmem)
  have hnear := h.natAbs_lt
  have hcount := Bytes.length_toList_le v.plainText
  rw [hbytes, Bytes.length_ofInt, htext, List.length_cons] at hcount
  rw [htext, List.length_cons] at hnear
  match width with
  | 0 => cases hcount
  | 1 =>
      -- The only character is a digit, and the byte of a digit is larger than its value.
      obtain rfl : cs = [] := List.length_eq_zero_iff.mp (by omega)
      rw [htext, List.mem_singleton] at hmem
      have hbounds := bounds_of_isDigit (hmem ▸ hdigit)
      obtain ⟨b, rest, hfirst, -, hlow, -⟩ := Bytes.exists_ofString_eq_cons htext
      have hb : b.toNat = c.toNat := hlow (by omega)
      have hfar := Bytes.le_natAbs_of_eq_ofInt (hfirst.symm.trans hbytes)
      rw [hb] at hfar
      norm_num at hnear hfar
      omega
  | width + 2 =>
      have hfar := Bytes.le_natAbs_of_ofString htext
        (h.toNat_ne_zero (htext ▸ List.mem_cons_self)) hbytes
      have hpow : 10 ^ (cs.length + 1) ≤ 256 ^ (width + 1) := by
        have hbase : 10 ^ width ≤ 256 ^ width := Nat.pow_le_pow_left (by decide) width
        calc 10 ^ (cs.length + 1) ≤ 10 ^ (width + 2) := Nat.pow_le_pow_right (by decide) hcount
          _ = 10 ^ width * 100 := Nat.pow_add 10 width 2
          _ ≤ 256 ^ width * 256 := Nat.mul_le_mul hbase (by decide)
          _ = 256 ^ (width + 1) := (Nat.pow_succ ..).symm
      exact absurd (Nat.lt_of_lt_of_le hnear hpow) (Nat.not_lt.mpr hfar)

end Json.Denotes

/-- The number is not the one that the value writes, and in the width of its type it is far from
zero unless the text of the value begins with the empty character. -/
def Json.Misread (v : Json) (width : Nat) (n : Int) : Prop :=
  ¬ v.Denotes n ∧
    ∀ c cs, v.plainText.toList = c :: cs → c.toNat ≠ 0 → 256 ^ (width - 1) ≤ n.natAbs

/-- Whatever number the bytes of a text are, it is read wrongly. -/
theorem Json.misread_of_ofString {v : Json} {width : Nat} {n : Int}
    (h : Bytes.ofString v.plainText = Bytes.ofInt width n) : v.Misread width n :=
  ⟨fun hn => hn.ofString_ne_ofInt width h,
    fun _ _ htext hc => Bytes.le_natAbs_of_ofString htext hc h⟩

/-! ### What is sent -/

namespace PgType

variable {type : PgType} {v : Json} {datum : Datum}

/-- The values without a type of their own. -/
inductive Raw (v : Json) : PgType → Datum → Prop
  | text {type : PgType} (htype : type ∈ [PgType.text, .varchar, .char, .name, .unknown]) :
      Raw v type (.scalar (.text v.plainText))
  | json : Raw v .json (.json v.plainText)
  | jsonb : Raw v .jsonb (.jsonb v.plainText)
  | other (spelling : String) : Raw v (.other spelling) (.scalar (.text v.plainText))

theorem raw_of_ofJson {x : Scalar} (htype : type.isScalar) (h : Scalar.ofJson type v = .ok x)
    (hraw : x.type? = none) : Raw v type (.scalar x) := by
  cases type with
  | bool | float4 | float8 | numeric | uuid | timestamptz | timestamp | date =>
      obtain ⟨_, -, rfl⟩ := Option.map_eq_some_iff.mp (Scalar.orInvalid_eq_ok_iff.mp h)
      cases hraw
  | int width =>
      simp only [Scalar.ofJson, Scalar.readInt] at h
      split at h
      case h_1 => cases h
      case h_2 n _ =>
          split at h
          case isTrue =>
              obtain rfl := Except.ok.inj h
              cases hraw
          case isFalse => cases h
  | text | varchar | char | name | unknown =>
      obtain rfl := Except.ok.inj h
      exact .text (by simp)
  | other spelling =>
      obtain rfl := Except.ok.inj h
      exact .other spelling
  | json | jsonb | list => cases htype

/-- A value that is converted and has no type of its own is the text of what was given. -/
theorem raw_of_convert (h : type.convert v = .ok (some datum)) (hraw : datum.type? = none) :
    Raw v type datum := by
  cases conversion_of_convert h with
  | list => cases hraw
  | json => exact .json
  | jsonb => exact .jsonb
  | scalar htype _ hread => exact raw_of_ofJson htype hread hraw

namespace Raw

theorem encode_eq (h : Raw v type datum) : datum.encode = type.documentBytes v.plainText := by
  cases h with
  | text htype =>
      simp only [List.mem_cons, List.not_mem_nil, or_false] at htype
      rcases htype with rfl | rfl | rfl | rfl | rfl <;> rfl
  | json | jsonb | other => rfl

theorem exists_layout? (h : Raw v type datum) (catalog : String → Layout) :
    ∃ layout, type.layout? catalog = some layout := by
  cases h with
  | text htype =>
      simp only [List.mem_cons, List.not_mem_nil, or_false] at htype
      rcases htype with rfl | rfl | rfl | rfl | rfl <;> exact ⟨_, rfl⟩
  | json | jsonb | other => exact ⟨_, rfl⟩

/-- Apart from binary documents the bytes are those of the text. -/
theorem encode_of_ne (h : Raw v type datum) (hne : type ≠ .jsonb) :
    datum.encode = Bytes.ofString v.plainText := by
  cases h with
  | text | json | other => rfl
  | jsonb => exact absurd rfl hne

variable {catalog : String → Layout} {width : Nat} {denotes : Json → Int → Prop}

theorem encode_of_fixed (h : Raw v type datum)
    (hlayout : type.layout? catalog = some (.fixed width denotes)) :
    datum.encode = Bytes.ofString v.plainText := by
  refine h.encode_of_ne ?_
  rintro rfl
  cases hlayout

/-- The bytes are in the layout of texts and binary documents, and in that of numbers by mistake
only. -/
theorem holds_iff {layout : Layout} (h : Raw v type datum)
    (hlayout : type.layout? catalog = some layout) :
    layout.Holds v datum.encode ↔ layout = .text ∨ type = .jsonb ∨
      ∃ width denotes n, layout = .fixed width denotes ∧ denotes v n ∧
        datum.encode = Bytes.ofInt width n ∧ v.Misread width n := by
  constructor
  · intro hholds
    cases layout with
    | text => exact .inl rfl
    | document =>
        refine .inr (.inl (by_contra fun hne => ?_))
        have hlength := congrArg List.length ((h.encode_of_ne hne).symm.trans hholds)
        exact absurd hlength (by simp)
    | fixed width denotes =>
        obtain ⟨n, hn, hbytes⟩ := hholds
        have htext := (h.encode_of_fixed hlayout).symm.trans hbytes
        exact .inr (.inr ⟨width, denotes, n, rfl, hn, hbytes, Json.misread_of_ofString htext⟩)
  · rintro (rfl | rfl | ⟨width, denotes, n, rfl, hn, hbytes, -⟩)
    · refine h.encode_of_ne ?_
      rintro rfl
      cases hlayout
    · obtain rfl := Option.some.inj hlayout
      exact h.encode_eq
    · exact ⟨n, hn, hbytes⟩

end Raw

/-- A value without a type of its own is sent under the described type, as the text of what was
given, behind a version in the case of a binary document.  This is the layout of texts and of binary
documents.  A type of fixed width takes the bytes whenever the text has that width, as a number that
the text does not write and that is far from zero; so they are in its layout only if the value
denotes such a number.  As documents the bytes are read as what was given unless that is a string,
which is taken for the text of a document. -/
theorem raw_holds_iff (catalog : String → Layout) (h : type.convert v = .ok (some datum))
    (hraw : datum.type? = none) :
    Argument.ofDatum type (some datum) = ⟨type, some datum.encode⟩ ∧
    datum.encode = type.documentBytes v.plainText ∧
    (∃ layout, type.layout? catalog = some layout ∧
      (layout.Holds v datum.encode ↔ layout = .text ∨ type = .jsonb ∨
        ∃ width denotes n, layout = .fixed width denotes ∧ denotes v n ∧
          datum.encode = Bytes.ofInt width n ∧ v.Misread width n)) ∧
    (∀ width denotes, type.layout? catalog = some (.fixed width denotes) →
      ((∃ n, datum.encode = Bytes.ofInt width n) ↔
        (Bytes.ofString v.plainText).length = width) ∧
      ∀ n, datum.encode = Bytes.ofInt width n → v.Misread width n) ∧
    (type.isDocument → v.Fits Json.maxDepth → v.Exact →
      (type.document? datum.encode = some v ↔ v.asString? = none)) := by
  have hsent := raw_of_convert h hraw
  obtain ⟨layout, hlayout⟩ := hsent.exists_layout? catalog
  refine ⟨?_, hsent.encode_eq, ⟨layout, hlayout, hsent.holds_iff hlayout⟩, ?_, ?_⟩
  · rw [Argument.ofDatum, Option.bind_some, hraw]
    rfl
  · intro width denotes hfixed
    rw [hsent.encode_of_fixed hfixed]
    exact ⟨Bytes.exists_eq_ofInt_iff, fun n => Json.misread_of_ofString⟩
  · intro htype hfits hexact
    rw [hsent.encode_eq, document?_documentBytes htype]
    exact Json.parse?_plainText_iff hfits hexact

/-- What the server knows of some types: the numbers of objects are whole numbers, and of amounts of
money, which are numbers of cents, one is enough here.  Other names are those of enumerations. -/
def someLayouts : String → Layout
  | "OID" => .fixed 4 Json.Denotes
  | "MONEY" => .fixed 8 fun v n => v = .string "$1234.56" ∧ n = 123456
  | _ => .text

/-- A word is in the layout of an enumeration.  An amount of money as wide as the type is taken, but
is not in the layout of its type. -/
theorem raw_holds_iff_money :
    let word : Json := .string "happy"
    let amount : Json := .string "$1234.56"
    (PgType.other "MOOD").convert word = .ok (some (.scalar (.text "happy"))) ∧
      (someLayouts "MOOD").Holds word (Bytes.ofString "happy") ∧
      (PgType.other "MONEY").convert amount = .ok (some (.scalar (.text "$1234.56"))) ∧
      (Scalar.text "$1234.56").type? = none ∧
      (∃ n, Bytes.ofString "$1234.56" = Bytes.ofInt 8 n) ∧
      ¬ (someLayouts "MONEY").Holds amount (Bytes.ofString "$1234.56") := by
  intro word amount
  have hword : (PgType.other "MOOD").convert word = .ok (some (.scalar (.text "happy"))) := rfl
  have hamount : (PgType.other "MONEY").convert amount = .ok (some (.scalar (.text "$1234.56"))) :=
    rfl
  obtain ⟨-, -, ⟨layout, hlayout, hholds⟩, -⟩ := raw_holds_iff someLayouts hword rfl
  obtain rfl : Layout.text = layout := Option.some.inj hlayout
  obtain ⟨-, -, ⟨layout, hlayout, hholds'⟩, hfixed, -⟩ := raw_holds_iff someLayouts hamount rfl
  obtain rfl : someLayouts "MONEY" = layout := Option.some.inj hlayout
  refine ⟨hword, hholds.mpr (.inl rfl), hamount, rfl, (hfixed 8 _ rfl).1.mpr (by decide +kernel),
    fun hbytes => ?_⟩
  rcases hholds'.mp hbytes with htext | hjsonb | ⟨width, denotes, n, hmoney, hn, -, -, hfar⟩
  · cases htext
  · cases hjsonb
  · cases hmoney
    obtain ⟨-, rfl⟩ := hn
    exact absurd (hfar '$' "1234.56".toList (by decide) (by decide)) (by decide)

/-- The number of an object is sent as its digits, and is taken for the number of another one. -/
theorem raw_holds_iff_object :
    (PgType.other "OID").convert (.string "1234") = .ok (some (.scalar (.text "1234"))) ∧
      (Datum.scalar (.text "1234")).type? = none ∧
      (Json.string "1234").Denotes 1234 ∧
      (Datum.scalar (.text "1234")).encode = [0x31, 0x32, 0x33, 0x34] ∧
      (Datum.scalar (.text "1234")).encode = Bytes.ofInt 4 825373492 ∧
      Bytes.ofInt 4 1234 = [0, 0, 0x04, 0xd2] ∧
      ¬ (someLayouts "OID").Holds (.string "1234") (Datum.scalar (.text "1234")).encode := by
  have hnumber : (Json.string "1234").Denotes 1234 := Json.denotes_string_iff.mpr rfl
  refine ⟨rfl, rfl, hnumber, by decide +kernel, by decide +kernel, by decide +kernel, ?_⟩
  rintro ⟨n, hn, hbytes⟩
  obtain rfl : n = 1234 := Json.Denotes.unique hn hnumber
  exact absurd hbytes (by decide +kernel)

end PgType

end PgCollections
