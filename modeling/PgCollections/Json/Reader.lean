import PgCollections.Json.Number
import PgCollections.Text.Hex

/-!
# Reading JSON texts

A reader goes through the text token by token. Its state is what it looks for next and the
containers that are still open; `step` consumes one token, and `read?` runs until a value is
complete, so that what follows the value is left to the caller. `parse?` accepts a text that is one
value and blanks.
-/

namespace PgCollections.Json

def isBlank (c : Char) : Bool := c = ' ' || c = '\t' || c = '\n' || c = '\r'

def skipBlanks (cs : List Char) : List Char := cs.dropWhile isBlank

/-! ### Strings -/

/-- The character that a backslash and the given letter stand for. -/
def unescapeChar? (c : Char) : Option Char :=
  if c = '"' ∨ c = '\\' ∨ c = '/' then some c
  else if c = 'b' then some '\x08'
  else if c = 'f' then some '\x0c'
  else if c = 'n' then some '\n'
  else if c = 'r' then some '\r'
  else if c = 't' then some '\t'
  else none

def isHighSurrogate (unit : Nat) : Bool := 0xD800 ≤ unit && unit < 0xDC00

def isLowSurrogate (unit : Nat) : Bool := 0xDC00 ≤ unit && unit < 0xE000

/-- A string as it is written, up to its closing quote, and what follows the quote. -/
def spanString : List Char → Option (List Char × List Char)
  | [] => none
  | '"' :: rest => some ([], rest)
  | ['\\'] => none
  | '\\' :: c :: rest => (spanString rest).map fun (chars, rest) => ('\\' :: c :: chars, rest)
  | c :: rest => (spanString rest).map fun (chars, rest) => (c :: chars, rest)

/-- The characters that a string's written form stands for. An escaped surrogate must be the first
of a pair or the second of one, and control characters must be escaped. -/
def unescape : List Char → Option (List Char)
  | [] => some []
  | '\\' :: 'u' :: a :: b :: c :: d :: rest => do
    let unit ← hexNat? [a, b, c, d]
    if isHighSurrogate unit then
      match rest with
      | '\\' :: 'u' :: e :: f :: g :: h :: rest => do
        let low ← hexNat? [e, f, g, h]
        if isLowSurrogate low then
          let chars ← unescape rest
          some (Char.ofNat (0x10000 + (unit - 0xD800) * 0x400 + (low - 0xDC00)) :: chars)
        else none
      | _ => none
    else if isLowSurrogate unit then none
    else
      let chars ← unescape rest
      some (Char.ofNat unit :: chars)
  | ['\\'] => none
  | '\\' :: c :: rest => do
    let c ← unescapeChar? c
    let chars ← unescape rest
    some (c :: chars)
  | c :: rest => if c.toNat < 0x20 then none else (unescape rest).map (c :: ·)

/-- The rest of a string after its opening quote, and what follows the closing one. -/
def readString (cs : List Char) : Option (String × List Char) := do
  let (written, rest) ← spanString cs
  let chars ← unescape written
  some (String.ofList chars, rest)

/-- What follows a literal name. -/
def afterWord (word : List Char) (cs : List Char) : Option (List Char) :=
  if word.isPrefixOf cs then some (cs.drop word.length) else none

/-! ### Values -/

/-- An open container: the values read so far, and for an object the name of the next one. -/
inductive Frame where
  | items (before : List Json)
  | fields (before : List (String × Json)) (name : String)

/-- What the text must go on with. -/
inductive Goal where
  | value
  | firstItem
  | name
  | firstName
  | separator

inductive State where
  | done (v : Json)
  | reading (goal : Goal) (stack : List Frame)

/-- The container with its next value. -/
def Frame.place (v : Json) : Frame → Frame
  | .items before => .items (v :: before)
  | .fields before name => .fields (Keyed.insert before name v) ""

/-- The state after a complete value inside the given containers. -/
def State.after (v : Json) : List Frame → State
  | [] => .done v
  | frame :: below => .reading .separator (frame.place v :: below)

/-- A value that is no container. -/
def readScalar : List Char → Option (Json × List Char)
  | '"' :: cs => (readString cs).map fun (s, rest) => (.string s, rest)
  | 'n' :: cs => (afterWord ['u', 'l', 'l'] cs).map fun rest => (.null, rest)
  | 't' :: cs => (afterWord ['r', 'u', 'e'] cs).map fun rest => (.bool true, rest)
  | 'f' :: cs => (afterWord ['a', 'l', 's', 'e'] cs).map fun rest => (.bool false, rest)
  | cs => (readNumber cs).map fun (n, rest) => (.number n, rest)

/-- The start of a value: an opening bracket, with at most `depth` containers open, or a scalar. -/
def stepValue (depth : Nat) (stack : List Frame) : List Char → Option (State × List Char)
  | '[' :: rest =>
    if stack.length < depth then some (.reading .firstItem (.items [] :: stack), rest) else none
  | '\x7b' :: rest =>
    if stack.length < depth then some (.reading .firstName (.fields [] "" :: stack), rest) else none
  | cs => (readScalar cs).map fun (v, rest) => (.after v stack, rest)

/-- A name and its colon. -/
def stepName : List Frame → List Char → Option (State × List Char)
  | .fields before _ :: below, '"' :: cs =>
    match readString cs with
    | some (name, rest) =>
      match skipBlanks rest with
      | ':' :: rest => some (.reading .value (.fields before name :: below), rest)
      | _ => none
    | none => none
  | _, _ => none

/-- A comma or a closing bracket. -/
def stepSeparator : List Frame → List Char → Option (State × List Char)
  | .items before :: below, ',' :: rest => some (.reading .value (.items before :: below), rest)
  | .items before :: below, ']' :: rest => some (.after (.array before.reverse) below, rest)
  | .fields before name :: below, ',' :: rest =>
    some (.reading .name (.fields before name :: below), rest)
  | .fields before _ :: below, '\x7d' :: rest => some (.after (.object before) below, rest)
  | _, _ => none

/-- Consumes one token; blanks before it are already skipped. -/
def step (depth : Nat) (goal : Goal) (stack : List Frame) (cs : List Char) :
    Option (State × List Char) :=
  match goal with
  | .value => stepValue depth stack cs
  | .firstItem => if cs.head? = some ']' then stepSeparator stack cs else stepValue depth stack cs
  | .name => stepName stack cs
  | .firstName => if cs.head? = some '\x7d' then stepSeparator stack cs else stepName stack cs
  | .separator => stepSeparator stack cs

/-! ### Every token is consumed -/

theorem length_skipBlanks_le (cs : List Char) : (skipBlanks cs).length ≤ cs.length :=
  (List.dropWhile_sublist _).length_le

theorem length_takeDigits (cs : List Char) :
    (takeDigits cs).1.length + (takeDigits cs).2.length = cs.length := by
  rw [← List.length_append, takeDigits, List.takeWhile_append_dropWhile]

theorem length_of_spanString {cs s rest : List Char} (h : spanString cs = some (s, rest)) :
    rest.length < cs.length := by
  fun_induction spanString cs generalizing s rest <;> grind [Option.map_eq_some_iff]

theorem length_of_readString {cs rest : List Char} {s : String}
    (h : readString cs = some (s, rest)) : rest.length < cs.length := by
  simp only [readString, Option.bind_eq_bind, Option.bind_eq_some_iff] at h
  obtain ⟨⟨written, after⟩, hspan, chars, -, h⟩ := h
  have := length_of_spanString hspan
  grind

theorem length_of_readFraction {cs rest : List Char} {fraction : Option (List Char)}
    (h : readFraction cs = some (fraction, rest)) : rest.length ≤ cs.length := by
  unfold readFraction at h
  grind [length_takeDigits]

theorem length_of_readExponent {cs rest : List Char} {exponent : Option Int}
    (h : readExponent cs = some (exponent, rest)) : rest.length ≤ cs.length := by
  unfold readExponent readSign at h
  grind [length_takeDigits]

theorem length_of_readUnsigned {negative : Bool} {cs rest : List Char} {n : Number}
    (h : readUnsigned negative cs = some (n, rest)) : rest.length < cs.length := by
  simp only [readUnsigned] at h
  split at h
  · contradiction
  · have := length_takeDigits cs
    grind [→ length_of_readFraction, → length_of_readExponent, Option.bind_eq_some_iff,
      List.isEmpty_iff_length_eq_zero]

theorem length_of_readNumber {cs rest : List Char} {n : Number}
    (h : readNumber cs = some (n, rest)) : rest.length < cs.length := by
  unfold readNumber at h
  grind [→ length_of_readUnsigned]

theorem length_of_readScalar {cs rest : List Char} {v : Json}
    (h : readScalar cs = some (v, rest)) : rest.length < cs.length := by
  unfold readScalar afterWord at h
  grind [→ length_of_readString, → length_of_readNumber, Option.map_eq_some_iff]

theorem length_of_step {depth : Nat} {goal : Goal} {stack : List Frame} {cs rest : List Char}
    {next : State} (h : step depth goal stack cs = some (next, rest)) :
    rest.length < cs.length := by
  unfold step stepSeparator stepName stepValue at h
  grind [→ length_of_readString, → length_of_readScalar, length_skipBlanks_le,
    Option.map_eq_some_iff]

/-! ### Whole values -/

/-- Runs until the value is complete. -/
def run (depth : Nat) (goal : Goal) (stack : List Frame) (cs : List Char) :
    Option (Json × List Char) :=
  match _h : step depth goal stack (skipBlanks cs) with
  | none => none
  | some (.done v, rest) => some (v, rest)
  | some (.reading goal stack, rest) => run depth goal stack rest
termination_by cs.length
decreasing_by
  exact Nat.lt_of_lt_of_le (length_of_step _h) (length_skipBlanks_le cs)

/-- The value that the text begins with, and what follows it. -/
def read? (depth : Nat) (text : String) : Option (Json × List Char) :=
  run depth .value [] text.toList

/-- The number of containers that may be open at a time. -/
def maxDepth : Nat := 127

/-- The value of a text that is one value, with blanks around it. -/
def parse? (text : String) (depth : Nat := maxDepth) : Option Json := do
  let (v, rest) ← read? depth text
  if (skipBlanks rest).isEmpty then some v else none

end PgCollections.Json
