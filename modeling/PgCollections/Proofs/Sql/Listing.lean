import PgCollections.Proofs.Sql.Grammar

/-! # Lists in statements

Readers that take a list off the front of the tokens.  `listing?` reads items with commas between
them and goes on as long as there is a comma, whatever the items are: names, placeholders, or lists
in parentheses again.  Such a list is what `parenthesised?` reads.  What is written as a list is read
back, provided that no comma follows (`listing?_intercalate`) or that it is in parentheses
(`parenthesised?_commaSeparated`), as a tuple of placeholders is (`slotTuple`). -/

namespace PgCollections.Sql

/-- Takes something off the front of the tokens. -/
abbrev Reader (α : Type) := List Token → Option (α × List Token)

variable {α : Type}

/-- Takes a single token. -/
def single? (read? : Token → Option α) : Reader α
  | t :: ts => (read? t).map (·, ts)
  | [] => none

/-- Takes items with commas between them.  An item may not be empty. -/
def listing? (item? : Reader α) (ts : List Token) : Option (List α × List Token) :=
  match item? ts with
  | some (a, .comma :: rest) =>
    if _h : rest.length < ts.length then
      (listing? item? rest).map fun (as, rest) => (a :: as, rest)
    else none
  | some (a, rest) => some ([a], rest)
  | none => none
termination_by ts.length

/-- Takes a list in parentheses. -/
def parenthesised? (item? : Reader α) : Reader (List α)
  | .opening :: ts =>
    match listing? item? ts with
    | some (as, .closing :: rest) => some (as, rest)
    | _ => none
  | _ => none

theorem listing?_last {item? : Reader α} {ts rest : List Token} {a : α}
    (h : item? ts = some (a, rest)) (hrest : rest.head? ≠ some .comma) :
    listing? item? ts = some ([a], rest) := by
  rw [listing?, h]
  split
  · rename_i heq
    obtain ⟨-, rfl⟩ := Prod.mk.inj (Option.some.inj heq)
    exact absurd rfl hrest
  · rename_i heq
    obtain ⟨rfl, rfl⟩ := Prod.mk.inj (Option.some.inj heq)
    rfl
  · rename_i heq
    cases heq

theorem listing?_next {item? : Reader α} {ts rest : List Token} {a : α}
    (h : item? ts = some (a, .comma :: rest)) (hlength : rest.length < ts.length) :
    listing? item? ts = (listing? item? rest).map fun (as, rest) => (a :: as, rest) := by
  rw [listing?, h]
  exact dif_pos hlength

/-- Items that are read back one by one are read back as a list. -/
theorem listing?_intercalate {item? : Reader α} (write : α → List Token) {rest : List Token}
    (hrest : rest.head? ≠ some .comma) (a : α) (as : List α)
    (h : ∀ x ∈ a :: as, ∀ more, item? (write x ++ more) = some (x, more)) :
    listing? item? ([.comma].intercalate ((a :: as).map write) ++ rest) = some (a :: as, rest) := by
  induction as generalizing a with
  | nil =>
      have hlast := h a List.mem_cons_self rest
      simpa using listing?_last hlast hrest
  | cons next as ih =>
      have ih := ih next fun x hx => h x (List.mem_cons_of_mem a hx)
      have hfirst := h a List.mem_cons_self
        (.comma :: ([.comma].intercalate ((next :: as).map write) ++ rest))
      have htokens : [Token.comma].intercalate ((a :: next :: as).map write) ++ rest =
          write a ++ .comma :: ([.comma].intercalate ((next :: as).map write) ++ rest) := by
        rw [List.map_cons, List.map_cons, intercalate_cons_cons, ← List.map_cons]
        simp
      have hshorter : ∀ front back : List Token, back.length < (front ++ .comma :: back).length := by
        intro front back
        simp only [List.length_append, List.length_cons]
        omega
      rw [htokens, listing?_next hfirst (hshorter _ _), ih]
      rfl

/-- Single tokens with commas between them are read back. -/
theorem listing?_commaSeparated (read? : Token → Option α) (token : α → Token)
    (hread : ∀ a, read? (token a) = some a) {rest : List Token} (hrest : rest.head? ≠ some .comma)
    {as : List α} (has : as ≠ []) :
    listing? (single? read?) (commaSeparated (as.map token) ++ rest) = some (as, rest) := by
  obtain ⟨a, as, rfl⟩ := List.exists_cons_of_ne_nil has
  rw [commaSeparated, List.map_map]
  refine listing?_intercalate (fun a => [token a]) hrest a as fun x _ more => ?_
  rw [List.singleton_append, single?, hread, Option.map_some]

theorem parenthesised?_commaSeparated (read? : Token → Option α) (token : α → Token)
    (hread : ∀ a, read? (token a) = some a) (rest : List Token) {as : List α} (has : as ≠ []) :
    parenthesised? (single? read?)
      ([.opening] ++ commaSeparated (as.map token) ++ [.closing] ++ rest) = some (as, rest) := by
  have hclosing : ([Token.closing] ++ rest).head? ≠ some .comma := by simp
  rw [List.append_assoc, List.append_assoc, List.singleton_append, parenthesised?,
    listing?_commaSeparated read? token hread hclosing has]
  rfl

/-! ### Tokens without blanks -/

theorem visible_of_forall {ts : List Token} (h : ∀ t ∈ ts, t.isBlank = false) : visible ts = ts :=
  List.filter_eq_self.mpr fun t ht => by rw [h t ht, Bool.not_false]

theorem isBlank_of_mem_commaSeparated {ts : List Token} (h : ∀ t ∈ ts, t.isBlank = false) :
    ∀ t ∈ commaSeparated ts, t.isBlank = false := by
  intro t ht
  rcases mem_commaSeparated ht with rfl | ht
  · rfl
  · exact h t ht

theorem visible_commaSeparated {token : α → Token} (h : ∀ a, (token a).isBlank = false)
    (as : List α) : visible (commaSeparated (as.map token)) = commaSeparated (as.map token) := by
  refine visible_of_forall (isBlank_of_mem_commaSeparated fun t ht => ?_)
  obtain ⟨a, -, rfl⟩ := List.mem_map.mp ht
  exact h a

/-! ### Tuples of placeholders -/

/-- A tuple of placeholders with the given numbers. -/
def slotTuple (slots : List Nat) : List Token :=
  [.opening] ++ commaSeparated (slots.map .slot) ++ [.closing]

theorem text_slotTuple (slots : List Nat) :
    text (slotTuple slots) = "(" ++ ",".intercalate (slots.map placeholder) ++ ")" := by
  rw [slotTuple, text_append, text_append, text_commaSeparated, List.map_map]
  rfl

theorem parenthesised?_slotTuple {slots : List Nat} (h : slots ≠ []) (more : List Token) :
    parenthesised? (single? Token.slot?) (slotTuple slots ++ more) = some (slots, more) :=
  parenthesised?_commaSeparated Token.slot? .slot (fun _ => rfl) more h

theorem isBlank_of_mem_slotTuple {slots : List Nat} {t : Token} (ht : t ∈ slotTuple slots) :
    t.isBlank = false := by
  simp only [slotTuple, List.mem_append, List.mem_singleton] at ht
  rcases ht with (rfl | ht) | rfl
  · rfl
  · exact isBlank_of_mem_commaSeparated (by simp [Token.isBlank]) t ht
  · rfl

end PgCollections.Sql
