/-!
# Items of a command line

A command line is a list of words and of switches, which may take a value. `scan` tells them apart
by the conventions for long names (`--name`, `--name=value`, `--name value`) and for letters
(`-l`, `-lvalue`, `-l=value`, `-l value`, and several letters in one word). It stops where the
command line breaks these conventions.
-/

namespace PgCollections.CommandLine

structure Switch where
  name : String
  letter : Option Char := none
  takesValue : Bool := false

inductive Item where
  | flag (name : String)
  | value (name text : String)
  | word (text : String)
deriving DecidableEq

/-- How the items end. -/
inductive Ending where
  | complete
  /-- A word, with which a command line of its own begins. -/
  | command (name : String) (arguments : List String)
  | malformed
deriving DecidableEq

/-- A word that starts with a hyphen is no value, unless it is a hyphen and nothing else. -/
def isValue (text : String) : Bool :=
  match text.toList with
  | '-' :: _ :: _ => false
  | _ => true

/-- What precedes the first equals sign, and what follows it if there is one. -/
def splitAtEquals (cs : List Char) : String × Option String :=
  (String.ofList (cs.takeWhile (· != '=')),
    match cs.dropWhile (· != '=') with
    | [] => none
    | _ :: value => some (String.ofList value))

/-- What a word of letters leaves to the words after it. -/
inductive Tail where
  | nothing
  | value (name : String)
  | malformed

/-- The switches of a word of letters. A switch that takes a value takes all that follows it. -/
def letters (switches : List Switch) : List Char → List Item × Tail
  | [] => ([], .nothing)
  | c :: rest =>
    match switches.find? fun switch => switch.letter = some c with
    | none => ([], .malformed)
    | some switch =>
      if switch.takesValue then
        match rest with
        | [] => ([], .value switch.name)
        | '=' :: value => ([.value switch.name (String.ofList value)], .nothing)
        | value => ([.value switch.name (String.ofList value)], .nothing)
      else
        let (items, tail) := letters switches rest
        (.flag switch.name :: items, tail)

/-- The switch of a long name, with the value that is attached to it. -/
def longName (switches : List Switch) (cs : List Char) : List Item × Tail :=
  let (name, attached) := splitAtEquals cs
  match switches.find? fun switch => switch.name = name, attached with
  | none, _ => ([], .malformed)
  | some switch, none =>
    if switch.takesValue then ([], .value name) else ([.flag name], .nothing)
  | some switch, some value =>
    if switch.takesValue then ([.value name value], .nothing) else ([], .malformed)

/-- Scans a command line. A switch may be `pending` that takes the next word as its value. With
`hasCommands` the first word is the name of a command. After two hyphens there are only words. -/
def scan (switches : List Switch) (hasCommands : Bool) (pending : Option String) :
    List String → List Item × Ending
  | [] => ([], if pending.isSome then .malformed else .complete)
  | text :: rest =>
    match pending with
    | some name =>
      if isValue text then
        let (items, ending) := scan switches hasCommands none rest
        (.value name text :: items, ending)
      else ([], .malformed)
    | none =>
      let go (found : List Item × Tail) : List Item × Ending :=
        match found.2 with
        | .malformed => (found.1, .malformed)
        | .nothing =>
          let (items, ending) := scan switches hasCommands none rest
          (found.1 ++ items, ending)
        | .value name =>
          let (items, ending) := scan switches hasCommands (some name) rest
          (found.1 ++ items, ending)
      match text.toList with
      | ['-', '-'] =>
        if hasCommands then ([], if rest.isEmpty then .complete else .malformed)
        else (rest.map .word, .complete)
      | '-' :: '-' :: name => go (longName switches name)
      | '-' :: c :: cs => go (letters switches (c :: cs))
      | _ => if hasCommands then ([], .command text rest) else go ([.word text], .nothing)

end PgCollections.CommandLine
