import PgCollections.Proofs.Sql.Keyword

/-! # The grammar of predicates

Reads a predicate from its tokens as SQL does.  `AND` binds most loosely of all, so that a predicate
is first split at it; `->` and `->>` bind more tightly than the comparisons and associate to the
left.  Blanks have no meaning.  `Operand.bound?` and `Atom.bound?` put the parameters in the places
of the placeholders.

The main statements are that the tokens of leaf conditions are read as one condition for each leaf
(`Leaf.predicate?_conjunction`), and that these conditions speak of the fields and the values of the
leaves as soon as the parameters supply the values (`Leaf.bound?_atoms`). -/

namespace PgCollections

namespace Sql

/-! ### Conditions -/

/-- What stands on a side of a comparison.  The parameters are known by number or by value. -/
inductive Operand (α : Type) where
  | column (name : String)
  | param (a : α)
  /-- `document -> key` -/
  | step (document key : Operand α)
  /-- `document ->> key` -/
  | stepText (document key : Operand α)

/-- A condition without conjunctions. -/
inductive Atom (α : Type) where
  | compare (left : Operand α) (c : Comparison) (right : Operand α)
  /-- `value = ANY(list)` -/
  | elementOf (value list : Operand α)
  /-- `value IN (items)` -/
  | member (value : Operand α) (items : List (Operand α))
  | never

/-- A path from a document, step by step. -/
def Operand.follow {α : Type} (document : Operand α) (keys : List α) : Operand α :=
  keys.foldl (fun d key => .step d (.param key)) document

/-! ### Reading -/

def primary? : Token → Option (Operand Nat)
  | .name name => some (.column name)
  | .slot i => some (.param i)
  | _ => none

/-- Takes as many steps as there are. -/
def readSteps (document : Operand Nat) : List Token → Operand Nat × List Token
  | .arrow :: t :: ts =>
    match primary? t with
    | some key => readSteps (.step document key) ts
    | none => (document, .arrow :: t :: ts)
  | .arrowText :: t :: ts =>
    match primary? t with
    | some key => readSteps (.stepText document key) ts
    | none => (document, .arrowText :: t :: ts)
  | ts => (document, ts)

def operand? : List Token → Option (Operand Nat × List Token)
  | t :: ts => (primary? t).map (readSteps · ts)
  | [] => none

/-- The items of a list up to its closing parenthesis. -/
def items? : List Token → Option (List (Operand Nat))
  | [t, .closing] => (primary? t).map ([·])
  | t :: .comma :: ts => do return (← primary? t) :: (← items? ts)
  | _ => none

def atom? (ts : List Token) : Option (Atom Nat) :=
  if ts = [.keyword .FALSE] then some .never
  else do
    let (left, rest) ← operand? ts
    match rest with
    | .keyword .IN :: .opening :: rest => return .member left (← items? rest)
    | [.comparison .eq, .keyword .ANY, .opening, t, .closing] =>
      return .elementOf left (← primary? t)
    | .comparison c :: rest =>
      match ← operand? rest with
      | (right, []) => return .compare left c right
      | _ => none
    | _ => none

/-- The tokens that have a meaning. -/
def visible (ts : List Token) : List Token := ts.filter fun t => !t.isBlank

@[simp] theorem visible_nil : visible [] = [] := rfl

theorem visible_cons {t : Token} {ts : List Token} (h : t.isBlank = false) :
    visible (t :: ts) = t :: visible ts := by
  simp [visible, h]

theorem visible_append (ts us : List Token) : visible (ts ++ us) = visible ts ++ visible us :=
  List.filter_append ts us

/-- The conditions that a predicate joins.  Where nothing is written there are none. -/
def predicate? (ts : List Token) : Option (List (Atom Nat)) :=
  if ts = [] then some [] else (ts.splitOn (.keyword .AND)).mapM atom?

/-! ### Parameters -/

/-- The parameter that a placeholder stands for; the numbers start from 1. -/
def paramAt? (params : List Json) : Nat → Option Json
  | 0 => none
  | i + 1 => params[i]?

def Operand.bound? (params : List Json) : Operand Nat → Option (Operand Json)
  | column name => some (.column name)
  | param i => (paramAt? params i).map .param
  | step document key => do return .step (← document.bound? params) (← key.bound? params)
  | stepText document key => do return .stepText (← document.bound? params) (← key.bound? params)

def Atom.bound? (params : List Json) : Atom Nat → Option (Atom Json)
  | compare left c right => do return .compare (← left.bound? params) c (← right.bound? params)
  | elementOf value list => do return .elementOf (← value.bound? params) (← list.bound? params)
  | member value items => do
    return .member (← value.bound? params) (← items.mapM (Operand.bound? params))
  | never => some .never

/-- The placeholders after number `n` stand for the values. -/
def Supplied (params : List Json) (n : Nat) (values : List Json) : Prop :=
  (slotsAfter n values.length).map (paramAt? params) = values.map some

@[simp] theorem supplied_nil (params : List Json) (n : Nat) : Supplied params n [] := rfl

@[simp] theorem supplied_cons {params values : List Json} {n : Nat} {v : Json} :
    Supplied params n (v :: values) ↔
      paramAt? params (n + 1) = some v ∧ Supplied params (n + 1) values := by
  simp [Supplied]

@[simp] theorem supplied_append {params values more : List Json} {n : Nat} :
    Supplied params n (values ++ more) ↔
      Supplied params n values ∧ Supplied params (n + values.length) more := by
  induction values generalizing n with
  | nil => simp
  | cons v values ih => simp [ih, and_assoc, Nat.add_assoc, Nat.add_comm 1]

theorem supplied_middle (before values after : List Json) :
    Supplied (before ++ (values ++ after)) before.length values := by
  induction values generalizing before with
  | nil => rfl
  | cons v values ih =>
      have hrest := ih (before ++ [v])
      rw [List.append_assoc, List.length_append] at hrest
      exact supplied_cons.mpr ⟨by simp [paramAt?], hrest⟩

theorem bound?_follow {params values : List Json} {n : Nat} {d : Operand Nat} {bound : Operand Json}
    (hd : d.bound? params = some bound) (h : Supplied params n values) :
    (d.follow (slotsAfter n values.length)).bound? params = some (bound.follow values) := by
  induction values generalizing n d bound with
  | nil => exact hd
  | cons v values ih =>
      obtain ⟨hv, hvalues⟩ := supplied_cons.mp h
      have hstep : (Operand.step d (.param (n + 1))).bound? params =
          some (.step bound (.param v)) := by
        simp [Operand.bound?, hd, hv]
      exact ih hstep hvalues

theorem bound?_items {params values : List Json} {n : Nat} (h : Supplied params n values) :
    ((slotsAfter n values.length).map Operand.param).mapM (Operand.bound? params) =
      some (values.map Operand.param) := by
  induction values generalizing n with
  | nil => rfl
  | cons v values ih =>
      obtain ⟨hv, hvalues⟩ := supplied_cons.mp h
      simp [Operand.bound?, hv, ih hvalues]

end Sql

open Sql

namespace Leaf

/-! ### The conditions of leaves -/

/-- A leaf condition whose placeholders follow number `n`. -/
def atom (n : Nat) : Leaf → Atom Nat
  | compare field c _ => .compare (.column field) c (.param (n + 1))
  | any field _ => .elementOf (.param (n + 1)) (.column field)
  | oneOf field v vs => .member (.column field) ((slotsAfter n (v :: vs).length).map .param)
  | never => .never
  | path field inner _ _ =>
    .compare (.stepText ((Operand.column field).follow (slotsAfter n inner.length))
      (.param (n + inner.length + 1))) .eq (.param (n + inner.length + 2))

/-- A leaf condition with its values. -/
def bound : Leaf → Atom Json
  | compare field c v => .compare (.column field) c (.param v)
  | any field v => .elementOf (.param v) (.column field)
  | oneOf field v vs => .member (.column field) ((v :: vs).map .param)
  | never => .never
  | path field inner last v =>
    .compare (.stepText ((Operand.column field).follow inner) (.param last)) .eq (.param v)

/-- Leaf conditions one after the other, their placeholders numbered through. -/
def atoms (n : Nat) : List Leaf → List (Atom Nat)
  | [] => []
  | l :: ls => l.atom n :: atoms (n + l.values.length) ls

theorem bound?_atom {params : List Json} {n : Nat} {l : Leaf} (h : Supplied params n l.values) :
    (l.atom n).bound? params = some l.bound := by
  cases l with
  | compare field c v => simp_all [atom, bound, values, Atom.bound?, Operand.bound?]
  | any field v => simp_all [atom, bound, values, Atom.bound?, Operand.bound?]
  | never => rfl
  | oneOf field v vs =>
      rw [values] at h
      simp only [atom, bound, Atom.bound?, Operand.bound?, bound?_items h]
      rfl
  | path field inner last v =>
      obtain ⟨hinner, hlast⟩ := supplied_append.mp h
      have hfollow := bound?_follow (d := .column field) rfl hinner
      simp_all [atom, bound, Atom.bound?, Operand.bound?]

theorem bound?_atoms {params : List Json} {n : Nat} {ls : List Leaf}
    (h : Supplied params n (allValues ls)) :
    (atoms n ls).mapM (Atom.bound? params) = some (ls.map bound) := by
  induction ls generalizing n with
  | nil => rfl
  | cons l ls ih =>
      obtain ⟨hl, hls⟩ := supplied_append.mp h
      simp [atoms, bound?_atom hl, ih hls]

/-! ### Reading conditions -/

theorem readSteps_follow (d : Operand Nat) (ns : List Nat) (ts : List Token) :
    readSteps d ((ns.map Token.slot).flatMap ([.arrow, ·]) ++ ts) = readSteps (d.follow ns) ts := by
  induction ns generalizing d with
  | nil => rfl
  | cons n ns ih => exact ih _

theorem commaSeparated_slots (n count : Nat) :
    commaSeparated (slots n (count + 2)) =
      .slot (n + 1) :: .comma :: commaSeparated (slots (n + 1) (count + 1)) :=
  intercalate_cons_cons [.comma] _ _ _

theorem items?_slots (n count : Nat) :
    items? (commaSeparated (slots n (count + 1)) ++ [.closing]) =
      some ((slotsAfter n (count + 1)).map .param) := by
  induction count generalizing n with
  | zero => rfl
  | succ count ih =>
      rw [commaSeparated_slots, List.cons_append, List.cons_append, items?, ih (n + 1)]
      rfl

theorem visible_commaSeparated_slots (n count : Nat) :
    visible (commaSeparated (slots n count)) = commaSeparated (slots n count) := by
  induction count generalizing n with
  | zero => rfl
  | succ count ih =>
      cases count with
      | zero => rfl
      | succ count => rw [commaSeparated_slots, visible_cons rfl, visible_cons rfl, ih (n + 1)]

theorem visible_steps (ns : List Nat) :
    visible ((ns.map Token.slot).flatMap ([.arrow, ·])) =
      (ns.map Token.slot).flatMap ([.arrow, ·]) := by
  induction ns with
  | nil => rfl
  | cons n ns ih => exact congrArg ([.arrow, .slot n] ++ ·) ih

theorem atom?_tokens (n : Nat) (l : Leaf) : atom? (visible (l.tokens n)) = some (l.atom n) := by
  cases l with
  | compare field c v => cases c <;> rfl
  | any field v => rfl
  | never => rfl
  | oneOf field v vs =>
      rw [tokens, visible_append, visible_append, visible_commaSeparated_slots]
      have hopen : visible [.name field, .blank, .keyword .IN, .blank, .opening] =
          [.name field, .keyword .IN, .opening] := rfl
      have hclose : visible [.closing] = [.closing] := rfl
      rw [hopen, hclose]
      simp [atom?, operand?, primary?, readSteps, items?_slots, atom]
  | path field inner last v =>
      have hlast : visible [.arrowText, .slot (n + inner.length + 1), .blank, .comparison .eq,
            .blank, .slot (n + inner.length + 2)] =
          [.arrowText, .slot (n + inner.length + 1), .comparison .eq,
            .slot (n + inner.length + 2)] := rfl
      rw [tokens, visible_cons rfl, visible_append, slots, visible_steps, hlast]
      simp only [atom?, operand?, primary?, readSteps_follow, Option.map_some]
      rfl

/-! ### Reading predicates -/

theorem visible_intercalate_andTokens (parts : List (List Token)) :
    visible (andTokens.intercalate parts) = [.keyword .AND].intercalate (parts.map visible) := by
  induction parts with
  | nil => rfl
  | cons part parts ih =>
      cases parts with
      | nil => simp [List.intercalate]
      | cons next parts =>
          have hand : visible andTokens = [.keyword .AND] := rfl
          rw [intercalate_cons_cons, visible_append, visible_append, ih, hand]
          exact (intercalate_cons_cons _ _ _ _).symm

theorem and_not_mem_tokens (n : Nat) (l : Leaf) : .keyword .AND ∉ visible (l.tokens n) := by
  intro h
  simpa using keyword_mem_tokens (List.mem_of_mem_filter h)

theorem mapM_numbered (n : Nat) (ls : List Leaf) :
    ((numbered n ls).map visible).mapM atom? = some (atoms n ls) := by
  induction ls generalizing n with
  | nil => rfl
  | cons l ls ih => simp [numbered, atoms, atom?_tokens, ih]

/-- The conjunction of leaf conditions is read as these conditions. -/
theorem predicate?_conjunction (n : Nat) (ls : List Leaf) :
    predicate? (visible (conjunction n ls)) = some (atoms n ls) := by
  cases ls with
  | nil => rfl
  | cons l ls =>
      have hfirst : visible (l.tokens n) ≠ [] := by
        intro h
        have hread := atom?_tokens n l
        rw [h] at hread
        cases hread
      -- No leaf condition contains the keyword, so that splitting at it undoes the joining.
      have hand : ∀ part ∈ (numbered n (l :: ls)).map visible, .keyword .AND ∉ part := by
        simpa using forall_mem_numbered (P := fun part => .keyword .AND ∉ visible part)
          and_not_mem_tokens n (l :: ls)
      have hne : [Token.keyword .AND].intercalate ((numbered n (l :: ls)).map visible) ≠ [] :=
        intercalate_ne_nil _ _ hfirst
      rw [predicate?, conjunction, visible_intercalate_andTokens, if_neg hne,
        List.splitOn_intercalate _ hand (by simp [numbered]), mapM_numbered]

end Leaf

end PgCollections
