import PgCollections.Text.Hex

/-!
# Universally unique identifiers

Sixteen bytes, written as hexadecimal digits in groups of 8, 4, 4, 4 and 12 with hyphens between
them.
-/

namespace PgCollections

structure Uuid where
  bytes : Bytes
  length_eq : bytes.length = 16
deriving DecidableEq

namespace Uuid

def ofBytes? (bytes : Bytes) : Option Uuid :=
  if h : bytes.length = 16 then some ⟨bytes, h⟩ else none

def text (u : Uuid) : String :=
  let part (first count : Nat) : List Char := Bytes.toHex ((u.bytes.drop first).take count)
  String.ofList (part 0 4 ++ '-' :: part 4 2 ++ '-' :: part 6 2 ++ '-' :: part 8 2 ++
    '-' :: part 10 6)

/-- Digits in hyphenated groups. -/
def ofHyphenated? (cs : List Char) : Option Uuid :=
  if cs.length = 36 ∧ [8, 13, 18, 23].all fun place => cs[place]? = some '-' then
    let part (first count : Nat) : List Char := (cs.drop first).take count
    (Bytes.ofHex? (part 0 8 ++ part 9 4 ++ part 14 4 ++ part 19 4 ++ part 24 12)).bind ofBytes?
  else none

/-- What may stand before the hyphenated form, in either case. -/
def urn : List Char := "urn:uuid:".toList

/-- The digits alone, the hyphenated form, that form in braces, or that form after `urn`. -/
def ofText? (text : String) : Option Uuid :=
  let cs := text.toList
  if cs.length = 32 then (Bytes.ofHex? cs).bind ofBytes?
  else if cs.length = 38 ∧ cs.head? = some '\x7b' ∧ cs.getLast? = some '\x7d' then
    ofHyphenated? ((cs.drop 1).take 36)
  else if cs.length = 45 ∧ urn.isPrefixOf (cs.map Char.toLower) then
    ofHyphenated? (cs.drop urn.length)
  else ofHyphenated? cs

end Uuid

end PgCollections
