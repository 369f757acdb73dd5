import Mathlib.Tactic.Ring
import PgCollections.Bytes

/-! # Numbers and texts as bytes

A number that fits its width is read back from its bytes (`Bytes.toInt_ofInt`), and so is a text
(`Bytes.toString?_ofString`).  In the other direction, bytes stand for numbers that fit
(`Bytes.fits_toInt`), and the bytes of a text are the ones it was read from
(`Bytes.ofString_of_toString?`).  The bytes of a text are also those of numbers, which are far from
zero (`Bytes.le_natAbs_of_ofString`). -/

namespace PgCollections

namespace Bytes

/-! ### Unsigned numbers -/

theorem length_ofNat (width n : Nat) : (ofNat width n).length = width := by
  induction width with
  | zero => rfl
  | succ width ih => rw [ofNat, List.length_cons, ih]

theorem foldl_eq_add (n : Nat) (bytes : Bytes) :
    bytes.foldl (fun n b => 256 * n + b.toNat) n = n * 256 ^ bytes.length + toNat bytes := by
  induction bytes generalizing n with
  | nil => simp [toNat]
  | cons b bytes ih =>
      rw [toNat, List.foldl_cons, List.foldl_cons, ih, ih (256 * 0 + b.toNat), List.length_cons,
        Nat.pow_succ']
      ring

theorem toNat_cons (b : UInt8) (bytes : Bytes) :
    toNat (b :: bytes) = b.toNat * 256 ^ bytes.length + toNat bytes := by
  rw [toNat, List.foldl_cons, Nat.mul_zero, Nat.zero_add]
  exact foldl_eq_add b.toNat bytes

/-- Bytes stand for a number that fits their width. -/
theorem toNat_lt (bytes : Bytes) : toNat bytes < 256 ^ bytes.length := by
  induction bytes with
  | nil => decide
  | cons b bytes ih =>
      have hb : b.toNat + 1 ≤ 256 := b.toNat_lt
      calc toNat (b :: bytes) = b.toNat * 256 ^ bytes.length + toNat bytes := toNat_cons b bytes
        _ < b.toNat * 256 ^ bytes.length + 256 ^ bytes.length := Nat.add_lt_add_left ih _
        _ = (b.toNat + 1) * 256 ^ bytes.length := by rw [Nat.add_mul, Nat.one_mul]
        _ ≤ 256 * 256 ^ bytes.length := Nat.mul_le_mul_right _ hb
        _ = 256 ^ (b :: bytes).length := by rw [List.length_cons, Nat.pow_succ']

/-- The lowest bytes of a number are the number up to multiples of what they can hold. -/
theorem toNat_ofNat_mod (width n : Nat) : toNat (ofNat width n) = n % 256 ^ width := by
  induction width with
  | zero => rw [Nat.pow_zero, Nat.mod_one]; rfl
  | succ width ih =>
      have hbyte : (UInt8.ofNat (n / 256 ^ width)).toNat = n / 256 ^ width % 256 := by simp
      rw [ofNat, toNat_cons, length_ofNat, ih, Nat.pow_eq, hbyte, Nat.mul_comm, Nat.add_comm,
        Nat.pow_succ, Nat.mod_mul]

/-- What is above the width does not matter. -/
theorem ofNat_mod (width n : Nat) : ofNat width (n % 256 ^ width) = ofNat width n := by
  induction width generalizing n with
  | zero => rfl
  | succ width ih =>
      have hbyte : n % 256 ^ (width + 1) / 256 ^ width = n / 256 ^ width % 256 := by
        rw [Nat.pow_succ, Nat.mod_mul_right_div_self]
      have hrest : n % 256 ^ (width + 1) % 256 ^ width = n % 256 ^ width :=
        Nat.mod_mod_of_dvd n (Nat.pow_dvd_pow 256 (Nat.le_succ width))
      have hsame : UInt8.ofNat (n / 256 ^ width % 256) = UInt8.ofNat (n / 256 ^ width) :=
        UInt8.toNat_inj.mp (by simp)
      rw [ofNat, ofNat, Nat.pow_eq, hbyte, hsame, ← ih (n % 256 ^ (width + 1)), hrest, ih]

/-- Bytes are those of the number that they stand for. -/
theorem ofNat_toNat (bytes : Bytes) : ofNat bytes.length (toNat bytes) = bytes := by
  induction bytes with
  | nil => rfl
  | cons b bytes ih =>
      have hlt := toNat_lt bytes
      have hbyte : toNat (b :: bytes) / 256 ^ bytes.length = b.toNat := by
        rw [toNat_cons, Nat.add_comm, Nat.add_mul_div_right _ _ (Nat.pow_pos (by decide)),
          Nat.div_eq_of_lt hlt, Nat.zero_add]
      have hrest : toNat (b :: bytes) % 256 ^ bytes.length = toNat bytes := by
        rw [toNat_cons, Nat.add_comm, Nat.add_mul_mod_self_right, Nat.mod_eq_of_lt hlt]
      rw [List.length_cons, ofNat, Nat.pow_eq, hbyte, ← ofNat_mod, hrest, ih, UInt8.ofNat_toNat]

/-- A number that fits its width is read back. -/
theorem toNat_ofNat {width n : Nat} (h : n < 256 ^ width) : toNat (ofNat width n) = n := by
  rw [toNat_ofNat_mod, Nat.mod_eq_of_lt h]

/-! ### Signed numbers -/

theorem length_ofInt (width : Nat) (n : Int) : (ofInt width n).length = width :=
  length_ofNat width _

/-- A number that bytes of a width can hold in two's complement. -/
def Fits (width : Nat) (n : Int) : Prop :=
  2 * n < (256 ^ width : Nat) ∧ -(256 ^ width : Nat) ≤ 2 * n

/-- Bytes stand for a signed number that fits their width. -/
theorem fits_toInt (bytes : Bytes) : Fits bytes.length (toInt bytes) := by
  have hlt := toNat_lt bytes
  simp only [Fits, toInt, Nat.pow_eq]
  split <;> omega

/-- A number that leaves room for a sign is read as a signed one. -/
theorem toInt_ofNat {width n : Nat} (h : 2 * n < 256 ^ width) : toInt (ofNat width n) = n := by
  have hnat : toNat (ofNat width n) = n := toNat_ofNat (by omega)
  simp only [toInt, Nat.pow_eq, length_ofNat, hnat]
  exact if_pos h

/-- A signed number that fits its width is read back. -/
theorem toInt_ofInt {width : Nat} {n : Int} (h : Fits width n) : toInt (ofInt width n) = n := by
  unfold Fits at h
  have hpos : (0 : Int) < (256 ^ width : Nat) := by exact_mod_cast Nat.pow_pos (by decide)
  have hlt : (n % (256 ^ width : Nat)).toNat < 256 ^ width := by
    have := Int.emod_lt_of_pos n hpos
    omega
  have hnat : toNat (ofInt width n) = (n % (256 ^ width : Nat)).toNat := toNat_ofNat hlt
  -- A negative number is written as the number that is larger by all that the bytes can tell apart.
  have hmod : n % (256 ^ width : Nat) = if 0 ≤ n then n else n + (256 ^ width : Nat) := by
    split
    case isTrue hn => exact Int.emod_eq_of_lt hn (by omega)
    case isFalse hn =>
        rw [← Int.add_emod_right]
        exact Int.emod_eq_of_lt (by omega) (by omega)
  simp only [toInt, Nat.pow_eq, length_ofInt, hnat, hmod]
  split <;> split <;> omega

/-- Bytes are those of some number of their width, and of no other width. -/
theorem exists_eq_ofInt_iff {width : Nat} {bytes : Bytes} :
    (∃ n, bytes = ofInt width n) ↔ bytes.length = width := by
  constructor
  · rintro ⟨n, rfl⟩
    exact length_ofInt width n
  · rintro rfl
    refine ⟨toNat bytes, ?_⟩
    rw [ofInt, ← Int.natCast_emod, Int.toNat_natCast, Nat.pow_eq, ofNat_mod, ofNat_toNat]

/-- A number is at least as far from zero as its first byte is from the empty and the full one. -/
theorem le_natAbs_of_eq_ofInt {width : Nat} {n : Int} {b : UInt8} {rest : Bytes}
    (h : b :: rest = ofInt width n) :
    min b.toNat (255 - b.toNat) * 256 ^ (width - 1) ≤ n.natAbs := by
  have hlength : rest.length + 1 = width := by
    rw [← length_ofInt width n, ← h, List.length_cons]
  subst hlength
  rw [Nat.add_sub_cancel]
  have hempty := Nat.mul_le_mul_right (256 ^ rest.length) (Nat.min_le_left b.toNat (255 - b.toNat))
  have hfull := Nat.mul_le_mul_right (256 ^ rest.length) (Nat.min_le_right b.toNat (255 - b.toNat))
  have hhalf : min b.toNat (255 - b.toNat) * 256 ^ rest.length ≤ 127 * 256 ^ rest.length :=
    Nat.mul_le_mul_right _ (by omega)
  rw [Nat.sub_mul] at hfull
  have hrest := toNat_lt rest
  have hvalue := toNat_cons b rest
  by_contra hnear
  -- A number near zero fits, so it is what the bytes stand for.
  have hfits : Fits (rest.length + 1) n := by
    rw [Fits, Nat.pow_succ']
    omega
  have hread := toInt_ofInt hfits
  simp only [← h, toInt, Nat.pow_eq, List.length_cons, Nat.pow_succ'] at hread
  split at hread <;> omega

/-! ### Bytes at the front -/

theorem take?_append {width : Nat} {first : Bytes} (h : first.length = width) (rest : Bytes) :
    (first ++ rest).take? width = some (first, rest) := by
  subst h
  rw [take?, if_pos (by simp), List.take_left, List.drop_left]

/-- Bytes that were taken have the width asked for. -/
theorem length_of_take? {width : Nat} {bytes first rest : Bytes}
    (h : bytes.take? width = some (first, rest)) : first.length = width := by
  unfold take? at h
  split at h
  case isTrue hle =>
      simp only [Option.some.injEq, Prod.mk.injEq] at h
      rw [← h.1, List.length_take, Nat.min_eq_left hle]
  case isFalse => cases h

/-- A signed number at the front is read back. -/
theorem takeInt?_ofInt_append {width : Nat} {n : Int} (h : Fits width n) (rest : Bytes) :
    (ofInt width n ++ rest).takeInt? width = some (n, rest) := by
  rw [takeInt?, take?_append (length_ofInt width n), Option.map_some]
  dsimp only
  rw [toInt_ofInt h]

/-- An unsigned number at the front is read back. -/
theorem takeNat?_append {width n : Nat} (h : n < 256 ^ width) (rest : Bytes) :
    (ofNat width n ++ rest).takeNat? width = some (n, rest) := by
  rw [takeNat?, take?_append (length_ofNat width n), Option.map_some]
  dsimp only
  rw [toNat_ofNat h]

/-- A length at the front is read back. -/
theorem takeInt?_append {width n : Nat} (h : 2 * n < 256 ^ width) (rest : Bytes) :
    (ofNat width n ++ rest).takeInt? width = some ((n : Int), rest) := by
  rw [takeInt?, take?_append (length_ofNat width n), Option.map_some]
  dsimp only
  rw [toInt_ofNat h]

/-- A number at the front is below half of what its bytes can tell apart. -/
theorem lt_of_takeInt? {width : Nat} {n : Int} {bytes rest : Bytes}
    (h : bytes.takeInt? width = some (n, rest)) : 2 * n < (256 ^ width : Nat) := by
  obtain ⟨⟨first, _⟩, htake, hpair⟩ := Option.map_eq_some_iff.mp h
  obtain ⟨rfl, -⟩ := Prod.mk.inj hpair
  have hfits := fits_toInt first
  rw [length_of_take? htake] at hfits
  exact hfits.1

/-! ### Texts -/

/-- Going through an array of bytes puts those from a place on behind the ones that were taken. -/
theorem toList_loop (bytes : ByteArray) (i : Nat) (taken : List UInt8) :
    ByteArray.toList.loop bytes i taken = taken.reverse ++ bytes.data.toList.drop i := by
  fun_induction ByteArray.toList.loop bytes i taken with
  | case1 i taken h ih =>
      have hi : i < bytes.data.toList.length := by simpa using h
      have hget : bytes.get! i = bytes.data.toList[i] := by
        rw [ByteArray.get!, getElem!_pos, Array.getElem_toList]
      rw [ih, List.reverse_cons, List.append_assoc, List.drop_eq_getElem_cons hi, hget]
      rfl
  | case2 i taken h =>
      have hi : bytes.data.toList.length ≤ i := by simpa using h
      rw [List.drop_of_length_le hi, List.append_nil]

theorem toList_eq_toList_data (bytes : ByteArray) : bytes.toList = bytes.data.toList :=
  toList_loop bytes 0 []

/-- The bytes of a text are those of its characters. -/
theorem ofString_eq_flatMap (s : String) :
    ofString s = s.toList.flatMap String.utf8EncodeChar := by
  rw [ofString, toList_eq_toList_data, String.toUTF8_eq_toByteArray, ← String.utf8Encode_toList,
    List.utf8Encode, List.toList_data_toByteArray]

theorem length_ofString (s : String) : (ofString s).length = s.utf8ByteSize := by
  rw [ofString, toList_eq_toList_data]
  rfl

/-- A text has at least as many bytes as characters. -/
theorem length_toList_le (s : String) : s.toList.length ≤ (ofString s).length := by
  rw [ofString_eq_flatMap]
  induction s.toList with
  | nil => exact Nat.le_refl _
  | cons c cs ih =>
      have hc := c.utf8Size_pos
      rw [List.flatMap_cons, List.length_append, List.length_cons, String.length_utf8EncodeChar]
      omega

/-- The first byte of a character is the character itself if it is one of the lower half, and is
never full. -/
theorem exists_utf8EncodeChar (c : Char) :
    ∃ b rest, String.utf8EncodeChar c = b :: rest ∧ b.toNat < 255 ∧
      (c.toNat < 128 → b.toNat = c.toNat) ∧ (128 ≤ c.toNat → 128 ≤ b.toNat) := by
  unfold String.utf8EncodeChar
  dsimp only
  have hc : c.val.toNat = c.toNat := rfl
  split
  · refine ⟨_, _, rfl, ?_, ?_, ?_⟩ <;> simp <;> omega
  split
  · refine ⟨_, _, rfl, ?_, ?_, ?_⟩ <;> simp <;> omega
  split
  · refine ⟨_, _, rfl, ?_, ?_, ?_⟩ <;> simp <;> omega
  · refine ⟨_, _, rfl, ?_, ?_, ?_⟩ <;> simp <;> omega

theorem exists_ofString_eq_cons {s : String} {c : Char} {cs : List Char} (h : s.toList = c :: cs) :
    ∃ b rest, ofString s = b :: rest ∧ b.toNat < 255 ∧
      (c.toNat < 128 → b.toNat = c.toNat) ∧ (128 ≤ c.toNat → 128 ≤ b.toNat) := by
  obtain ⟨b, rest, hc, hfirst⟩ := exists_utf8EncodeChar c
  refine ⟨b, rest ++ cs.flatMap String.utf8EncodeChar, ?_, hfirst⟩
  rw [ofString_eq_flatMap, h, List.flatMap_cons, hc, List.cons_append]

/-- The bytes of a text that does not begin with the empty character are those of numbers that are
far from zero only. -/
theorem le_natAbs_of_ofString {s : String} {c : Char} {cs : List Char} {width : Nat} {n : Int}
    (hs : s.toList = c :: cs) (hc : c.toNat ≠ 0) (h : ofString s = ofInt width n) :
    256 ^ (width - 1) ≤ n.natAbs := by
  obtain ⟨b, rest, hfirst, hfull, hlow, hhigh⟩ := exists_ofString_eq_cons hs
  have hb : 1 ≤ min b.toNat (255 - b.toNat) := by omega
  calc 256 ^ (width - 1) ≤ min b.toNat (255 - b.toNat) * 256 ^ (width - 1) :=
        Nat.le_mul_of_pos_left _ hb
    _ ≤ n.natAbs := le_natAbs_of_eq_ofInt (hfirst.symm.trans h)

/-- A text is read back from its bytes. -/
theorem toString?_ofString (s : String) : toString? (ofString s) = some s := by
  have hbytes : s.toUTF8.toList.toByteArray = s.toUTF8 := by
    apply ByteArray.ext
    rw [toList_eq_toList_data, List.data_toByteArray, Array.toArray_toList]
  rw [toString?, ofString, hbytes]
  simp only [String.fromUTF8?, String.toUTF8_eq_toByteArray, dif_pos s.isValidUTF8]
  rfl

/-- The bytes of a text are those it was read from. -/
theorem ofString_of_toString? {bytes : Bytes} {s : String} (h : toString? bytes = some s) :
    ofString s = bytes := by
  unfold toString? String.fromUTF8? at h
  split at h
  case isTrue =>
      rw [← Option.some.inj h]
      change bytes.toByteArray.toList = bytes
      rw [toList_eq_toList_data, List.toList_data_toByteArray]
  case isFalse => cases h

end Bytes

end PgCollections
