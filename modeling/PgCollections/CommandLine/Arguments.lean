import PgCollections.CommandLine.Item
import PgCollections.Number.Text

/-!
# Arguments

`Invocation.ofArguments` reads a command line: options, and a command with options of its own.
-/

namespace PgCollections.CommandLine

/-- How the rows of an answer are printed. -/
inductive Format where
  | table
  | json
deriving DecidableEq

def Format.name : Format → String
  | table => "table"
  | json => "json"

def Format.ofName? (name : String) : Option Format :=
  [table, json].find? fun format => format.name = name

structure Options where
  /-- The configuration file. -/
  config : Option String := none
  /-- Statements are shown and not sent. -/
  dryRun : Bool := false
  /-- Tables are printed if no format is named. -/
  format : Option Format := none
  verbose : Bool := false
deriving DecidableEq

inductive Command where
  /-- Selects rows; the sort terms are still to be read. -/
  | find (table filter : String) (limit offset : Option Nat) (order : List String)
  /-- Deletes rows; an empty filter is accepted only with `all`. -/
  | remove (table filter : String) (all : Bool)
  /-- Shows the column types of field types. -/
  | types (wide : Bool)
deriving DecidableEq

structure Invocation where
  options : Options
  command : Command
deriving DecidableEq

/-- Why a command line is not carried out. -/
inductive Stop where
  | usage
  | version
deriving DecidableEq

/-! ### Options -/

def optionSwitches : List Switch :=
  [⟨"config", some 'c', true⟩, ⟨"dry-run", some 'd', false⟩, ⟨"format", some 'f', true⟩,
    ⟨"verbose", some 'v', false⟩, ⟨"version", some 'V', false⟩]

/-- Sets an option, which must not be set yet. -/
def Options.set (options : Options) : Item → Except Stop Options
  | .flag "version" => .error .version
  | .flag "dry-run" =>
    if options.dryRun then .error .usage else .ok { options with dryRun := true }
  | .flag "verbose" =>
    if options.verbose then .error .usage else .ok { options with verbose := true }
  | .value "config" file =>
    if file.isEmpty ∨ options.config.isSome then .error .usage
    else .ok { options with config := some file }
  | .value "format" name =>
    if (Format.ofName? name).isNone ∨ options.format.isSome then .error .usage
    else .ok { options with format := Format.ofName? name }
  | _ => .error .usage

/-- Reads the options in order; the first that is wrong or asks for the version decides. -/
def readOptions (items : List Item) : Except Stop Options := items.foldlM Options.set {}

/-! ### Commands -/

def words (items : List Item) : List String :=
  items.filterMap fun item =>
    match item with
    | .word text => some text
    | _ => none

/-- The values of a switch. -/
def values (name : String) (items : List Item) : List String :=
  items.filterMap fun item =>
    match item with
    | .value switch text => if switch = name then some text else none
    | _ => none

def atMostOne? {α : Type} : List α → Option (Option α)
  | [] => some none
  | [a] => some (some a)
  | _ => none

/-- A flag is given, and at most once. -/
def flag? (name : String) (items : List Item) : Option Bool :=
  let count := items.count (.flag name)
  if count ≤ 1 then some (count = 1) else none

/-- A count of 64 bits, with an optional plus sign. -/
def readCount? (text : String) : Option Nat := do
  let digits := match text.toList with
    | '+' :: digits => digits
    | digits => digits
  let n := digitsValue digits
  if digits.isEmpty ∨ ¬ digits.all Char.isDigit ∨ Nat.pow 2 64 ≤ n then none else some n

/-- The parts of a text between its commas. -/
def splitCommas : List Char → List (List Char)
  | [] => [[]]
  | c :: rest =>
    if c = ',' then [] :: splitCommas rest
    else
      match splitCommas rest with
      | part :: parts => (c :: part) :: parts
      | [] => [[c]]

/-- The sort terms of a value. -/
def sortTerms (text : String) : List String := (splitCommas text.toList).map String.ofList

/-- The filter that is used when none is given. -/
def emptyFilter : String := "\x7b\x7d"

def filterSwitch : Switch := ⟨"filter", none, true⟩

def findSwitches : List Switch :=
  [filterSwitch, ⟨"limit", none, true⟩, ⟨"offset", none, true⟩, ⟨"order", none, true⟩]

def removeSwitches : List Switch := [filterSwitch, ⟨"all", none, false⟩]

def typesSwitches : List Switch := [⟨"wide", none, false⟩]

/-- A count that is given at most once. -/
def count? (name : String) (items : List Item) : Option (Option Nat) := do
  match ← atMostOne? (values name items) with
  | none => return none
  | some text => return some (← readCount? text)

def findOf? (items : List Item) : Option Command := do
  let [table] := words items | none
  let filter ← atMostOne? (values "filter" items)
  return .find table (filter.getD emptyFilter) (← count? "limit" items) (← count? "offset" items)
    ((values "order" items).flatMap sortTerms)

def removeOf? (items : List Item) : Option Command := do
  let [table] := words items | none
  let filter ← atMostOne? (values "filter" items)
  return .remove table (filter.getD emptyFilter) (← flag? "all" items)

def typesOf? (items : List Item) : Option Command := do
  let [] := words items | none
  return .types (← flag? "wide" items)

/-- The items of a command's own arguments, if nothing is wrong with them. -/
def items? (switches : List Switch) (arguments : List String) : Option (List Item) :=
  match scan switches false none arguments with
  | (items, .complete) => some items
  | _ => none

def Command.ofArguments? (name : String) (arguments : List String) : Option Command :=
  match name with
  | "find" => (items? findSwitches arguments).bind findOf?
  | "remove" => (items? removeSwitches arguments).bind removeOf?
  | "types" => (items? typesSwitches arguments).bind typesOf?
  | _ => none

def Invocation.ofArguments (arguments : List String) : Except Stop Invocation := do
  let (items, ending) := scan optionSwitches true none arguments
  let options ← readOptions items
  match ending with
  | .command name rest =>
    match Command.ofArguments? name rest with
    | some command => return ⟨options, command⟩
    | none => throw .usage
  | _ => throw .usage

end PgCollections.CommandLine
