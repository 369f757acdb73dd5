/-!
# Bytes

Whole numbers as big-endian bytes of a fixed width; signed numbers in two's complement.
-/

namespace PgCollections

abbrev Bytes := List UInt8

namespace Bytes

/-- The `width` lowest bytes of a number, the most significant first. -/
def ofNat (width n : Nat) : Bytes :=
  match width with
  | 0 => []
  | width + 1 => UInt8.ofNat (n / Nat.pow 256 width) :: ofNat width n

def toNat (bytes : Bytes) : Nat := bytes.foldl (fun n b => 256 * n + b.toNat) 0

def ofInt (width : Nat) (n : Int) : Bytes := ofNat width (n % (Nat.pow 256 width : Nat)).toNat

def toInt (bytes : Bytes) : Int :=
  let n := toNat bytes
  if 2 * n < Nat.pow 256 bytes.length then n else n - (Nat.pow 256 bytes.length : Nat)

def ofString (s : String) : Bytes := s.toUTF8.toList

/-- The text of well-formed UTF-8. -/
def toString? (bytes : Bytes) : Option String := String.fromUTF8? bytes.toByteArray

/-- The first `width` bytes, and those after them. -/
def take? (width : Nat) (bytes : Bytes) : Option (Bytes × Bytes) :=
  if width ≤ bytes.length then some (bytes.take width, bytes.drop width) else none

/-- The number in the first `width` bytes, and the bytes after them. -/
def takeNat? (width : Nat) (bytes : Bytes) : Option (Nat × Bytes) :=
  (bytes.take? width).map fun (first, rest) => (toNat first, rest)

/-- The signed number in the first `width` bytes, and the bytes after them. -/
def takeInt? (width : Nat) (bytes : Bytes) : Option (Int × Bytes) :=
  (bytes.take? width).map fun (first, rest) => (toInt first, rest)

end Bytes

end PgCollections
