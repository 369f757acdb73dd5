import PgCollections.Json.Basic

/-!
# Tables under construction

A TOML document defines one tree of tables, line by line. `Table.insert?` adds a value under a
dotted key, `Table.open?` a table under a header and `Table.append?` a further table of a list of
tables. Each refuses what would define something twice. A finished tree is read as JSON.
-/

namespace PgCollections.Toml

/-- How a table came into being: by a header of its own, as an intermediate name of a header, or as
an intermediate name of a dotted key. -/
inductive Origin where
  | header
  | implied
  | dotted
deriving DecidableEq

inductive Node where
  | value (v : Json)
  | table (origin : Origin) (entries : List (String × Node))
  /-- A list of tables: those that are finished, the last of them first, and the one in use. -/
  | tables (finished : List Json) (last : List (String × Node))

abbrev Entries := List (String × Node)

mutual

def Node.toJson : Node → Json
  | .value v => v
  | .table _ entries => .object (Entries.fields entries)
  | .tables finished last => .array (finished.reverse ++ [.object (Entries.fields last)])

def Entries.fields : Entries → List (String × Json)
  | [] => []
  | (key, node) :: rest => (key, node.toJson) :: Entries.fields rest

end

namespace Entries

def toJson (entries : Entries) : Json := .object entries.fields

/-- Changes the table at the end of a path of names. Unknown names become new tables. A dotted key
may not go through a table that has a header of its own. -/
def change? (dotted : Bool) (act : Origin → Entries → Option Entries) :
    List String → Origin → Entries → Option Entries
  | [], origin, entries => act origin entries
  | key :: path, _, entries =>
    match Keyed.get? entries key with
    | none => do
      let origin := if dotted then .dotted else .implied
      let inner ← change? dotted act path origin []
      return Keyed.insert entries key (.table origin inner)
    | some (.value _) => none
    | some (.tables finished last) => do
      let inner ← change? dotted act path .header last
      return Keyed.insert entries key (.tables finished inner)
    | some (.table origin inner) =>
      if dotted ∧ origin = .header then none
      else do
        let inner ← change? dotted act path origin inner
        return Keyed.insert entries key (.table origin inner)

/-- Adds a value under a dotted key, given as the names before its last one and that last one. -/
def insert? (path : List String) (key : String) (v : Json) (entries : Entries) : Option Entries :=
  change? true (fun origin inner =>
    if path.isEmpty = (origin = .dotted) ∨ (Keyed.get? inner key).isSome then none
    else some (inner ++ [(key, .value v)])) path .header entries

/-- Adds a table under a header. -/
def open? (path : List String) (key : String) (entries : Entries) : Option Entries :=
  change? false (fun _ inner =>
    match Keyed.get? inner key with
    | none => some (inner ++ [(key, .table .header [])])
    | some (.table .implied entries) => some (Keyed.insert inner key (.table .header entries))
    | some _ => none) path .header entries

/-- Adds a table to the list of tables under a header. -/
def append? (path : List String) (key : String) (entries : Entries) : Option Entries :=
  change? false (fun _ inner =>
    match Keyed.get? inner key with
    | none => some (inner ++ [(key, .tables [] [])])
    | some (.tables finished last) =>
      some (Keyed.insert inner key (.tables (toJson last :: finished) []))
    | some _ => none) path .header entries

/-- Adds a value in the table that a header names. -/
def insertAt? (header path : List String) (key : String) (v : Json) (entries : Entries) :
    Option Entries :=
  change? false (fun _ inner => insert? path key v inner) header .header entries

end Entries

end PgCollections.Toml
