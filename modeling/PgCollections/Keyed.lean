/-!
# Insertion-ordered maps

A list of pairs read as a map from names to values. `Keyed.insert` leaves a name at the place of
its first insertion and gives it the value of its last one. Objects, rows and filters are such maps.
-/

namespace PgCollections

/-- A map from names to values, in the order of first insertion. -/
abbrev Keyed (α : Type) := List (String × α)

namespace Keyed

variable {α : Type}

/-- Sets the value of a name: in place when the name is known, at the end when it is new. -/
def insert : Keyed α → String → α → Keyed α
  | [], key, value => [(key, value)]
  | entry :: rest, key, value =>
    if entry.1 = key then (key, value) :: rest else entry :: insert rest key value

def get? (entries : Keyed α) (key : String) : Option α :=
  List.lookup key entries

def keys (entries : Keyed α) : List String :=
  entries.map Prod.fst

/-- The map that arises by inserting the pairs one after the other. -/
def ofList (pairs : List (String × α)) : Keyed α :=
  pairs.foldl (fun entries pair => insert entries pair.1 pair.2) []

end Keyed

end PgCollections
