import Mathlib.Data.List.Chain
import Mathlib.Data.List.TakeWhile
import PgCollections.Filter.Operator
import PgCollections.Sql.Bindings
import PgCollections.Sql.Identifier

/-! # Tokens of statements

A reader of SQL texts that knows nothing of how they are built.  `token?` takes one token off a
text by the longest match, and `lex` reads a whole text:

* a quoted identifier is one token, whose content is the name with `""` read as one quote;
* a placeholder is a dollar sign and as many digits as there are;
* words and operators are the longest runs of their characters, and must be known ones;
* blanks are tokens too, so that nothing of a text is lost.

`text` writes tokens.  The main statement is `lex_text`: tokens of which none can absorb the
first character of the next (`Apart`) are read back from their text, whatever the names are. -/

namespace PgCollections.Sql

/-- The keywords of the statements on rows. -/
inductive Keyword where
  | SELECT | FROM | WHERE | AND | IN | ANY | FALSE | ORDER | BY | ASC | DESC | LIMIT | OFFSET
  | INSERT | INTO | VALUES | RETURNING | UPDATE | SET | DELETE | DROP | TABLE
deriving DecidableEq

def Keyword.text : Keyword → String
  | SELECT => "SELECT"
  | FROM => "FROM"
  | WHERE => "WHERE"
  | AND => "AND"
  | IN => "IN"
  | ANY => "ANY"
  | FALSE => "FALSE"
  | ORDER => "ORDER"
  | BY => "BY"
  | ASC => "ASC"
  | DESC => "DESC"
  | LIMIT => "LIMIT"
  | OFFSET => "OFFSET"
  | INSERT => "INSERT"
  | INTO => "INTO"
  | VALUES => "VALUES"
  | RETURNING => "RETURNING"
  | UPDATE => "UPDATE"
  | SET => "SET"
  | DELETE => "DELETE"
  | DROP => "DROP"
  | TABLE => "TABLE"

inductive Token where
  | blank
  /-- A quoted identifier, by the name it stands for. -/
  | name (name : String)
  /-- A placeholder. -/
  | slot (index : Nat)
  | keyword (k : Keyword)
  | comparison (c : Comparison)
  /-- The operator `->`. -/
  | arrow
  /-- The operator `->>`. -/
  | arrowText
  | star
  | comma
  | opening
  | closing
deriving DecidableEq

namespace Token

def text : Token → String
  | blank => " "
  | name n => quoteIdentifier n
  | slot i => placeholder i
  | keyword k => k.text
  | comparison c => c.symbol
  | arrow => "->"
  | arrowText => "->>"
  | star => "*"
  | comma => ","
  | opening => "("
  | closing => ")"

/-- The words and operators that are known. -/
def known : List Token :=
  [arrow, arrowText, star] ++
    [Comparison.eq, .lte, .lt, .gte, .gt, .like].map comparison ++
    [Keyword.SELECT, .FROM, .WHERE, .AND, .IN, .ANY, .FALSE, .ORDER, .BY, .ASC, .DESC, .LIMIT,
      .OFFSET, .INSERT, .INTO, .VALUES, .RETURNING, .UPDATE, .SET, .DELETE, .DROP, .TABLE].map
      keyword

/-- The word or operator that is written so. -/
def ofText? (s : String) : Option Token := known.find? fun t => t.text = s

def isBlank : Token → Bool
  | blank => true
  | _ => false

/-- The name of an identifier. -/
def name? : Token → Option String
  | name n => some n
  | _ => none

/-- The number of a placeholder. -/
def slot? : Token → Option Nat
  | slot i => some i
  | _ => none

end Token

/-! ### Reading -/

def isWordChar (c : Char) : Bool := c.isAlphanum || c = '_' || c = '$'

/-- The characters of which operators consist. -/
def isOperatorChar (c : Char) : Bool := "+-*/<>=~!@#%^&|?".toList.contains c

/-- An identifier after its opening quote, and what follows the closing one. -/
def readQuoted : List Char → Option (List Char × List Char)
  | '"' :: '"' :: cs => (readQuoted cs).map fun (name, rest) => ('"' :: name, rest)
  | '"' :: rest => some ([], rest)
  | c :: cs => (readQuoted cs).map fun (name, rest) => (c :: name, rest)
  | [] => none

/-- A word or an operator: the longest run of characters of the kind of the first one. -/
def readRun (c : Char) (cs : List Char) : Option (Token × List Char) :=
  let kind := if isOperatorChar c then isOperatorChar else isWordChar
  if kind c then
    (Token.ofText? (String.ofList (c :: cs.takeWhile kind))).map (·, cs.dropWhile kind)
  else none

/-- The token at the start of a text, and what follows it. -/
def token? : List Char → Option (Token × List Char)
  | ' ' :: cs => some (.blank, cs)
  | ',' :: cs => some (.comma, cs)
  | '(' :: cs => some (.opening, cs)
  | ')' :: cs => some (.closing, cs)
  | '"' :: cs => (readQuoted cs).map fun (name, rest) => (.name (String.ofList name), rest)
  | '$' :: cs =>
    if (cs.takeWhile Char.isDigit).isEmpty then none
    else some (.slot (Nat.ofDigitChars 10 (cs.takeWhile Char.isDigit) 0), cs.dropWhile Char.isDigit)
  | c :: cs => readRun c cs
  | [] => none

theorem length_of_readQuoted {cs name rest : List Char} (h : readQuoted cs = some (name, rest)) :
    rest.length < cs.length := by
  fun_induction readQuoted cs generalizing name rest <;> grind [Option.map_eq_some_iff]

theorem length_of_token? {cs rest : List Char} {t : Token} (h : token? cs = some (t, rest)) :
    rest.length < cs.length := by
  unfold token? readRun at h
  grind [→ length_of_readQuoted, List.length_dropWhile_le, Option.map_eq_some_iff]

/-- The tokens of a text, if it consists of tokens. -/
def lex (cs : List Char) : Option (List Token) :=
  match cs with
  | [] => some []
  | c :: cs =>
    match _h : token? (c :: cs) with
    | none => none
    | some (t, rest) => (lex rest).map (t :: ·)
termination_by cs.length
decreasing_by exact length_of_token? _h

/-! ### Writing -/

/-- The text of tokens. -/
def text (ts : List Token) : String := String.join (ts.map Token.text)

@[simp] theorem text_nil : text [] = "" := rfl

@[simp] theorem text_cons (t : Token) (ts : List Token) : text (t :: ts) = t.text ++ text ts := by
  simp [text]

theorem text_append (ts us : List Token) : text (ts ++ us) = text ts ++ text us := by
  simp [text]

theorem intercalate_cons_cons (sep part next : List Token) (parts : List (List Token)) :
    sep.intercalate (part :: next :: parts) = part ++ (sep ++ sep.intercalate (next :: parts)) := by
  simp [List.intercalate]

theorem text_intercalate (sep : List Token) : ∀ parts : List (List Token),
    text (sep.intercalate parts) = (text sep).intercalate (parts.map text)
  | [] => rfl
  | [part] => by simp [List.intercalate]
  | part :: next :: parts => by
      have ih := text_intercalate sep (next :: parts)
      rw [intercalate_cons_cons, List.map_cons, List.map_cons, String.intercalate_cons_cons,
        ← List.map_cons, ← ih, text_append, text_append, String.append_assoc]

theorem intercalate_ne_nil (sep : List Token) {part : List Token} (parts : List (List Token))
    (h : part ≠ []) : sep.intercalate (part :: parts) ≠ [] := by
  cases parts with
  | nil => simpa [List.intercalate] using h
  | cons next parts =>
      rw [intercalate_cons_cons]
      exact List.append_ne_nil_of_left_ne_nil h _

theorem mem_intercalate {sep : List Token} {t : Token} {parts : List (List Token)}
    (h : t ∈ sep.intercalate parts) : t ∈ sep ∨ ∃ part ∈ parts, t ∈ part := by
  induction parts with
  | nil => cases h
  | cons part parts ih =>
      cases parts with
      | nil => exact .inr ⟨part, List.mem_cons_self, by simpa [List.intercalate] using h⟩
      | cons next parts =>
          rw [intercalate_cons_cons, List.mem_append, List.mem_append] at h
          rcases h with h | h | h
          · exact .inr ⟨part, List.mem_cons_self, h⟩
          · exact .inl h
          · exact (ih h).imp_right fun ⟨p, hp, ht⟩ => ⟨p, List.mem_cons_of_mem part hp, ht⟩

/-- Tokens with commas between them. -/
def commaSeparated (ts : List Token) : List Token := [.comma].intercalate (ts.map ([·]))

theorem text_commaSeparated (ts : List Token) :
    text (commaSeparated ts) = ",".intercalate (ts.map Token.text) := by
  have hcomma : text [.comma] = "," := rfl
  simp [commaSeparated, text_intercalate, hcomma, Function.comp_def]

namespace Token

/-- Blanks and punctuation, which can stand next to any token. -/
def isLoose : Token → Bool
  | blank | comma | opening | closing => true
  | _ => false

/-- The first character of the token's text. -/
def first : Token → Char
  | name _ => '"'
  | slot _ => '$'
  | t => t.text.toList.headD ' '

/-- The character right behind the token would be read as part of it. -/
def absorbs : Token → Char → Bool
  | name _, c => c = '"'
  | slot _, c => c.isDigit
  | keyword _, c | comparison .like, c => isWordChar c
  | comparison _, c | arrow, c | arrowText, c | star, c => isOperatorChar c
  | blank, _ | comma, _ | opening, _ | closing, _ => false

end Token

/-- The second token can stand right behind the first. -/
def Apart (t u : Token) : Prop := t.absorbs u.first = false

/-- No token can absorb the first character of the next one. -/
abbrev Separated (ts : List Token) : Prop := ts.IsChain Apart

theorem apart_of_isLoose_left {t : Token} (h : t.isLoose = true) (u : Token) :
    Apart t u := by
  cases t <;> simp_all [Token.isLoose, Apart, Token.absorbs]

theorem first_of_isLoose {t : Token} (h : t.isLoose = true) :
    t.first = ' ' ∨ t.first = ',' ∨ t.first = '(' ∨ t.first = ')' := by
  revert h
  cases t <;> simp +decide [Token.isLoose]

theorem apart_of_isLoose_right (t : Token) {u : Token} (h : u.isLoose = true) :
    Apart t u := by
  unfold Apart
  rcases first_of_isLoose h with hc | hc | hc | hc <;> rw [hc] <;> cases t with
  | comparison c => cases c <;> rfl
  | _ => rfl

@[simp] theorem apart_blank_left (u : Token) : Apart .blank u := rfl

@[simp] theorem apart_opening_left (u : Token) : Apart .opening u := rfl

@[simp] theorem apart_blank_right (t : Token) : Apart t .blank := apart_of_isLoose_right t rfl

@[simp] theorem apart_opening_right (t : Token) : Apart t .opening := apart_of_isLoose_right t rfl

@[simp] theorem apart_closing_right (t : Token) : Apart t .closing := apart_of_isLoose_right t rfl

theorem Separated.append {ts us : List Token} (ht : Separated ts) (hu : Separated us)
    (h : (∀ t ∈ ts.getLast?, t.isLoose = true) ∨ ∀ u ∈ us.head?, u.isLoose = true) :
    Separated (ts ++ us) := by
  refine List.IsChain.append ht hu fun t htm u hum => ?_
  rcases h with h | h
  · exact apart_of_isLoose_left (h t htm) u
  · exact apart_of_isLoose_right t (h u hum)

/-- Tokens that start and end loosely can stand between any others. -/
structure Separator (sep : List Token) : Prop where
  separated : Separated sep
  ne_nil : sep ≠ []
  head : ∀ t ∈ sep.head?, t.isLoose = true
  last : ∀ t ∈ sep.getLast?, t.isLoose = true

/-! ### Reading what is written -/

theorem readQuoted_quote {rest : List Char} (h : rest.head? ≠ some '"') :
    readQuoted ('"' :: rest) = some ([], rest) := by
  rw [readQuoted]
  rintro cs rfl
  exact h rfl

theorem readQuoted_cons {c : Char} (hc : c ≠ '"') (cs : List Char) :
    readQuoted (c :: cs) = (readQuoted cs).map fun (name, rest) => (c :: name, rest) := by
  rw [readQuoted] <;> simp [hc]

theorem readQuoted_doubleQuotes (name : List Char) {rest : List Char} (h : rest.head? ≠ some '"') :
    readQuoted (doubleQuotes name ++ '"' :: rest) = some (name, rest) := by
  induction name with
  | nil => exact readQuoted_quote h
  | cons c name ih =>
      by_cases hc : c = '"'
      · subst hc
        simp only [doubleQuotes, if_pos, List.cons_append, readQuoted, ih, Option.map_some]
      · simp only [doubleQuotes, if_neg hc, List.cons_append, readQuoted_cons hc, ih,
          Option.map_some]

/-- A run of elements of one kind ends where another element follows. -/
theorem span_run {α : Type} {p : α → Bool} {rest : List α} (run : List α)
    (hrun : ∀ a ∈ run, p a = true) (hrest : ∀ a ∈ rest.head?, p a = false) :
    (run ++ rest).takeWhile p = run ∧ (run ++ rest).dropWhile p = rest := by
  rw [List.takeWhile_append_of_pos hrun, List.dropWhile_append_of_pos hrun]
  cases rest with
  | nil => simp
  | cons a as =>
      have ha : p a = false := hrest a rfl
      simp [ha]

theorem readRun_known {t : Token} {c : Char} {cs rest : List Char} (ht : t.text.toList = c :: cs)
    (hknown : Token.ofText? t.text = some t)
    (hkind : (if isOperatorChar c then isOperatorChar else isWordChar) = t.absorbs)
    (hall : (c :: cs).all t.absorbs = true) (hrest : ∀ x ∈ rest.head?, t.absorbs x = false) :
    readRun c (cs ++ rest) = some (t, rest) := by
  have hrun := List.all_eq_true.mp hall
  obtain ⟨htake, hdrop⟩ := span_run cs (fun x hx => hrun x (List.mem_cons_of_mem c hx)) hrest
  have hc : t.absorbs c = true := hrun c List.mem_cons_self
  simp only [readRun, hkind, hc, if_true, htake, hdrop]
  rw [← ht, String.ofList_toList, hknown, Option.map_some]

theorem token?_name (name : String) {rest : List Char} (h : rest.head? ≠ some '"') :
    token? ((quoteIdentifier name).toList ++ rest) = some (.name name, rest) := by
  simp only [quoteIdentifier, String.toList_ofList, List.cons_append, List.append_assoc,
    List.nil_append, token?, readQuoted_doubleQuotes _ h, Option.map_some, String.ofList_toList]

theorem token?_slot (i : Nat) {rest : List Char} (h : ∀ c ∈ rest.head?, c.isDigit = false) :
    token? ((placeholder i).toList ++ rest) = some (.slot i, rest) := by
  have hdigits : (placeholder i).toList = '$' :: Nat.toDigits 10 i := by
    simp [placeholder, Nat.toString_eq_repr, Nat.repr]
  obtain ⟨htake, hdrop⟩ := span_run (Nat.toDigits 10 i)
    (fun c hc => Nat.isDigit_of_mem_toDigits (by decide) (by decide) hc) h
  simp [hdigits, token?, htake, hdrop, Nat.ofDigitChars_ten_toDigits, Nat.toDigits_ne_nil]

/-- A token is read back, unless the text behind it continues it. -/
theorem token?_text (t : Token) {rest : List Char} (h : ∀ c ∈ rest.head?, t.absorbs c = false) :
    token? (t.text.toList ++ rest) = some (t, rest) := by
  cases t with
  | blank => rfl
  | comma => rfl
  | opening => rfl
  | closing => rfl
  | name n => exact token?_name n fun hr => by simpa [Token.absorbs] using h '"' hr
  | slot i => exact token?_slot i h
  | keyword k => cases k <;> exact readRun_known rfl rfl rfl rfl h
  | comparison c => cases c <;> exact readRun_known rfl rfl rfl rfl h
  | arrow => exact readRun_known rfl rfl rfl rfl h
  | arrowText => exact readRun_known rfl rfl rfl rfl h
  | star => exact readRun_known rfl rfl rfl rfl h

theorem head?_text (t : Token) (rest : List Char) :
    (t.text.toList ++ rest).head? = some t.first := by
  cases t with
  | name n => simp [Token.text, Token.first, quoteIdentifier]
  | slot i => simp [Token.text, Token.first, placeholder]
  | keyword k => cases k <;> rfl
  | comparison c => cases c <;> rfl
  | _ => rfl

theorem text_eq_empty_iff (ts : List Token) : text ts = "" ↔ ts = [] := by
  cases ts with
  | nil => simp
  | cons t ts =>
      have hhead := head?_text t (text ts).toList
      refine ⟨fun h => ?_, fun h => by cases h⟩
      rw [← String.toList_append, ← text_cons, h] at hhead
      cases hhead

theorem lex_of_token? {cs rest : List Char} {t : Token} (h : token? cs = some (t, rest)) :
    lex cs = (lex rest).map (t :: ·) := by
  cases cs with
  | nil => simp [token?] at h
  | cons c cs =>
      rw [lex]
      split
      · simp_all
      · simp_all

/-- Tokens that stand apart are read back from their text. -/
theorem lex_text {ts : List Token} (h : Separated ts) : lex (text ts).toList = some ts := by
  induction ts with
  | nil => rw [text_nil, String.toList_empty, lex]
  | cons t ts ih =>
      -- What follows the token starts with the first character of the next one, or is empty.
      have hhead : ∀ c ∈ (text ts).toList.head?, t.absorbs c = false := by
        cases ts with
        | nil => simp
        | cons u us =>
            rw [text_cons, String.toList_append, head?_text]
            rintro c ⟨⟩
            exact (List.isChain_cons_cons.mp h).1
      rw [text_cons, String.toList_append, lex_of_token? (token?_text t hhead), ih h.tail,
        Option.map_some]

end PgCollections.Sql
