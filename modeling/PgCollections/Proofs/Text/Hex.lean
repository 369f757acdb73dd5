import Mathlib.Algebra.Ring.Nat
import PgCollections.Postgres.Uuid

/-! # Hexadecimal digits read back

A digit is read as its value (`hexValue?_hexDigit`), and the digits of bytes as these bytes
(`Bytes.ofHex?_toHex`).  An identifier is read from its groups of digits, in whichever bytes the
hyphens fall (`Uuid.ofText?_text`). -/

namespace PgCollections

theorem hexValue?_hexDigit {n : Nat} (h : n < 16) : hexValue? (hexDigit n) = some n := by
  have hall : ∀ n < 16, hexValue? (hexDigit n) = some n := by decide
  exact hall n h

namespace Bytes

theorem length_toHex (bytes : Bytes) : (toHex bytes).length = 2 * bytes.length := by
  induction bytes with
  | nil => rfl
  | cons b bytes ih =>
      rw [toHex, List.flatMap_cons, List.length_append, ← toHex, ih, List.length_cons]
      simp only [List.length_cons, List.length_nil]
      omega

theorem toHex_append (first second : Bytes) :
    toHex (first ++ second) = toHex first ++ toHex second :=
  List.flatMap_append

theorem ofHex?_toHex (bytes : Bytes) : ofHex? (toHex bytes) = some bytes := by
  induction bytes with
  | nil => rfl
  | cons b bytes ih =>
      have hbyte : b.toNat < 256 := b.toNat_lt
      have hhigh := hexValue?_hexDigit (n := b.toNat / 16) (by omega)
      have hlow := hexValue?_hexDigit (n := b.toNat % 16) (by omega)
      have hvalue : UInt8.ofNat (16 * (b.toNat / 16) + b.toNat % 16) = b := by
        rw [Nat.div_add_mod, UInt8.ofNat_toNat]
      have hcons : toHex (b :: bytes) =
          hexDigit (b.toNat / 16) :: hexDigit (b.toNat % 16) :: toHex bytes := rfl
      rw [hcons, ofHex?, hhigh, hlow, ih]
      simp only [Option.bind_eq_bind, Option.bind_some, hvalue]
      rfl

end Bytes

/-! ### Identifiers -/

namespace Uuid

/-- Groups of digits, as many as an identifier has, are read with the hyphens left out. -/
theorem ofHyphenated?_groups {a b c d e : List Char} (ha : a.length = 8) (hb : b.length = 4)
    (hc : c.length = 4) (hd : d.length = 4) (he : e.length = 12) :
    ofHyphenated? (a ++ '-' :: (b ++ '-' :: (c ++ '-' :: (d ++ '-' :: e)))) =
      (Bytes.ofHex? (a ++ b ++ c ++ d ++ e)).bind ofBytes? := by
  unfold ofHyphenated?
  rw [if_pos]
  · -- Nothing of a group is left where the next one begins.
    simp (disch := omega) [List.drop_append, List.drop_eq_nil_of_le, List.take_of_length_le, ha, hb,
      hc, hd]
  · simp [List.getElem?_append, ha, hb, hc, hd, he]

/-- The characters of an identifier: the digits of its bytes, in groups. -/
theorem toList_text (u : Uuid) : u.text.toList =
    Bytes.toHex (u.bytes.take 4) ++ '-' :: (Bytes.toHex ((u.bytes.drop 4).take 2) ++
      '-' :: (Bytes.toHex ((u.bytes.drop 6).take 2) ++
        '-' :: (Bytes.toHex ((u.bytes.drop 8).take 2) ++
          '-' :: Bytes.toHex ((u.bytes.drop 10).take 6)))) := by
  rw [text, String.toList_ofList]
  simp

/-- The groups are all bytes, in order. -/
theorem groups_eq (u : Uuid) :
    u.bytes.take 4 ++ (u.bytes.drop 4).take 2 ++ (u.bytes.drop 6).take 2 ++
      (u.bytes.drop 8).take 2 ++ (u.bytes.drop 10).take 6 = u.bytes := by
  have hlength := u.length_eq
  have hlast : (u.bytes.drop 10).take 6 = u.bytes.drop 10 :=
    List.take_of_length_le (by rw [List.length_drop]; omega)
  have hjoin (start count : Nat) : (u.bytes.drop start).take count ++ u.bytes.drop (start + count) =
      u.bytes.drop start := by
    rw [← List.drop_drop, List.take_append_drop]
  rw [hlast, List.append_assoc, hjoin 8 2, List.append_assoc, hjoin 6 2, List.append_assoc,
    hjoin 4 2, List.take_append_drop]

/-- An identifier is read as it was written. -/
theorem ofText?_text (u : Uuid) : ofText? u.text = some u := by
  have hlength := u.length_eq
  have hpart (first count : Nat) (h : first + count ≤ 16) :
      (Bytes.toHex ((u.bytes.drop first).take count)).length = 2 * count := by
    rw [Bytes.length_toHex, List.length_take, List.length_drop]
    omega
  have hgroups : ofHyphenated? u.text.toList = some u := by
    have hfirst : (Bytes.toHex (u.bytes.take 4)).length = 8 := hpart 0 4 (by omega)
    rw [toList_text, ofHyphenated?_groups hfirst (hpart 4 2 (by omega)) (hpart 6 2 (by omega))
      (hpart 8 2 (by omega)) (hpart 10 6 (by omega))]
    simp only [← Bytes.toHex_append]
    rw [groups_eq, Bytes.ofHex?_toHex, Option.bind_some, ofBytes?, dif_pos hlength]
  -- The length tells the hyphenated form from the others.
  have hsize : u.text.toList.length = 36 := by
    rw [toList_text]
    simp only [List.length_append, List.length_cons, Bytes.length_toHex, List.length_take,
      List.length_drop, hlength]
    rfl
  unfold ofText?
  simp only [hsize, hgroups]
  rfl

end Uuid

end PgCollections
