import PgCollections.Postgres.Format
import PgCollections.Proofs.Bytes
import PgCollections.Proofs.Traversal

/-! # Lists of the server

A `StoredList` is a list as the server keeps it, with any number of dimensions and with elements
that can be null.  `StoredList.values?` tells which lists have values that can be read: those
without nulls that have no dimensions or one that counts from one.  A reader of lists gets the
values of these and nothing of all others (`StoredList.decodeList?_encode`). -/

namespace PgCollections

/-- The first length that the server's format has no room for. -/
def Datum.lengthBound : Nat := 2 ^ 31

/-- A list as the server keeps it: how many elements there are in each dimension and from which
number on they are counted, and the bytes of the elements. -/
structure StoredList where
  dimensions : List (Nat × Int)
  elements : List (Option Bytes)
  /-- The format has room for the numbers. -/
  rank_lt : dimensions.length < Datum.lengthBound
  fits : ∀ dimension ∈ dimensions, dimension.1 < Datum.lengthBound ∧ Bytes.Fits 4 dimension.2
  length_lt : ∀ bytes, some bytes ∈ elements → bytes.length < Datum.lengthBound
  /-- There is one element for each place. -/
  count_eq : elements.length = if dimensions.isEmpty then 0 else (dimensions.map Prod.fst).prod

namespace StoredList

/-! ### Bytes -/

/-- An element is its length and its bytes, and null has a negative length. -/
def encodeElement : Option Bytes → Bytes
  | none => Bytes.ofInt 4 (-1)
  | some bytes => Bytes.ofNat 4 bytes.length ++ bytes

/-- How many elements there are in a dimension, and the number of the first one. -/
def encodeDimension (dimension : Nat × Int) : Bytes :=
  Bytes.ofNat 4 dimension.1 ++ Bytes.ofInt 4 dimension.2

/-- The number of dimensions, whether an element is null, the element type, the dimensions and the
elements. -/
def encode (l : StoredList) (element : ElementType) : Bytes :=
  Bytes.ofNat 4 l.dimensions.length ++ Bytes.ofNat 4 (if none ∈ l.elements then 1 else 0) ++
    Bytes.ofNat 4 element.oid ++ l.dimensions.flatMap encodeDimension ++
    l.elements.flatMap encodeElement

/-! ### Values -/

/-- The values of the elements, if there are no dimensions or one that counts from one. -/
def values? (l : StoredList) (type : PgType) : Option (List Scalar) :=
  match l.dimensions with
  | [] => some []
  | [(_, first)] =>
    if first = 1 then l.elements.mapM fun bytes => bytes.bind (Scalar.decode? type) else none
  | _ => none

/-- A list with a null has no values. -/
theorem values?_of_null {l : StoredList} (h : none ∈ l.elements) (type : PgType) :
    l.values? type = none := by
  unfold values?
  split
  case h_1 hdimensions =>
      have hcount := l.count_eq
      rw [hdimensions] at hcount
      rw [List.length_eq_zero_iff.mp hcount] at h
      cases h
  case h_2 =>
      split
      case isTrue =>
          refine Option.eq_none_iff_forall_ne_some.mpr ?_
          intro xs hxs
          obtain ⟨x, hx⟩ := exists_forall₂_iff.mp ⟨xs, mapM_eq_some_iff.mp hxs⟩ none h
          cases hx
      case isFalse => rfl
  case h_3 => rfl

theorem decodeElements?_encode (type : PgType) {elements : List (Option Bytes)}
    (h : ∀ bytes, some bytes ∈ elements → bytes.length < Datum.lengthBound) :
    Datum.decodeElements? type elements.length (elements.flatMap encodeElement) =
      elements.mapM fun bytes => bytes.bind (Scalar.decode? type) := by
  induction elements with
  | nil => rfl
  | cons own elements ih =>
      have hrest := ih fun bytes hbytes => h bytes (List.mem_cons_of_mem own hbytes)
      rw [List.flatMap_cons, List.length_cons, Datum.decodeElements?, List.mapM_cons]
      cases own with
      | none =>
          have hfits : Bytes.Fits 4 (-1) := ⟨by decide, by decide⟩
          rw [encodeElement, Bytes.takeInt?_ofInt_append hfits]
          rfl
      | some bytes =>
          have hlength := h bytes List.mem_cons_self
          have hroom : 2 * bytes.length < 256 ^ 4 := by
            unfold Datum.lengthBound at hlength
            omega
          have hsign : ¬((bytes.length : Int) < 0) := by omega
          have hown := Bytes.take?_append (rfl : bytes.length = bytes.length)
            (elements.flatMap encodeElement)
          rw [encodeElement, List.append_assoc, Bytes.takeInt?_append hroom]
          simp only [Option.bind_eq_bind, Option.bind_some, Int.toNat_natCast, hown, hsign,
            if_false, hrest]

/-- A reader of lists gets the values of a list, if there are any. -/
theorem decodeList?_encode (l : StoredList) (element : ElementType) (type : PgType) :
    Datum.decodeList? type (l.encode element) = l.values? type := by
  have hrank : 2 * l.dimensions.length < 256 ^ 4 := by
    have hlt := l.rank_lt
    unfold Datum.lengthBound at hlt
    omega
  have hskip (nulls : Nat) (rest : Bytes) :
      (Bytes.ofNat 4 nulls ++ (Bytes.ofNat 4 element.oid ++ rest)).take? 8 =
        some (Bytes.ofNat 4 nulls ++ Bytes.ofNat 4 element.oid, rest) := by
    rw [← List.append_assoc]
    exact Bytes.take?_append (by simp [Bytes.length_ofNat]) rest
  have helements := decodeElements?_encode type l.length_lt
  unfold encode values? Datum.decodeList?
  simp only [List.append_assoc, Bytes.takeInt?_append hrank, Option.bind_eq_bind, Option.bind_some]
  cases hdimensions : l.dimensions with
  | nil => rfl
  | cons dimension more =>
      rw [List.length_cons, if_neg (by omega)]
      cases more with
      | nil =>
          have hmem : dimension ∈ l.dimensions := by
            rw [hdimensions]
            exact List.mem_cons_self
          obtain ⟨hcount, hfirst⟩ := l.fits dimension hmem
          have hroom : 2 * dimension.1 < 256 ^ 4 := by
            unfold Datum.lengthBound at hcount
            omega
          have hsame : l.elements.length = dimension.1 := by
            have hplaces := l.count_eq
            rw [hdimensions] at hplaces
            simpa using hplaces
          rw [hsame] at helements
          simp only [List.flatMap_singleton, encodeDimension, List.append_assoc, hskip,
            Option.bind_some, Bytes.takeInt?_append hroom, Bytes.takeInt?_ofInt_append hfirst]
          rw [if_neg (by simp)]
          simp only [Int.toNat_natCast, helements]
          by_cases hone : dimension.2 = 1
          · rw [if_neg (by omega), if_pos hone]
          · rw [if_pos (.inl hone), if_neg hone]
      | cons second more =>
          rw [if_pos (by rw [List.length_cons]; omega)]
          rfl

end StoredList

end PgCollections
