import Mathlib.Logic.Function.Basic
import PgCollections.Proofs.Sql.Token

/-! # Quoted names

A quoted identifier can stand before any text that does not begin with a quote.  It is then read as
one identifier with its name, and what follows is left (`token?_name`); and whatever is read as an
identifier was written so (`token?_eq_name_iff`).  So two texts that begin with quoted names are the
same only if the names and the rests are (`append_quoteIdentifier_inj`). -/

namespace PgCollections.Sql

/-- The reader takes what stands for a name and the closing quote, and a quote does not follow. -/
theorem readQuoted_eq_some_iff {cs name rest : List Char} :
    readQuoted cs = some (name, rest) ↔
      cs = doubleQuotes name ++ '"' :: rest ∧ rest.head? ≠ some '"' := by
  constructor
  · intro h
    fun_induction readQuoted cs generalizing name with
    | case1 cs ih =>
        obtain ⟨⟨inner, after⟩, hread, heq⟩ := Option.map_eq_some_iff.mp h
        obtain ⟨rfl, rfl⟩ := Prod.mk.inj heq
        obtain ⟨rfl, hrest⟩ := ih hread
        exact ⟨by simp [doubleQuotes], hrest⟩
    | case2 after hsingle =>
        obtain ⟨rfl, rfl⟩ := Prod.mk.inj (Option.some.inj h)
        refine ⟨rfl, fun hquote => ?_⟩
        obtain ⟨more, rfl⟩ := List.head?_eq_some_iff.mp hquote
        exact hsingle more rfl
    | case3 c cs _ hc ih =>
        obtain ⟨⟨inner, after⟩, hread, heq⟩ := Option.map_eq_some_iff.mp h
        obtain ⟨rfl, rfl⟩ := Prod.mk.inj heq
        obtain ⟨rfl, hrest⟩ := ih hread
        rw [doubleQuotes, if_neg hc]
        exact ⟨rfl, hrest⟩
    | case4 => cases h
  · rintro ⟨rfl, hrest⟩
    exact readQuoted_doubleQuotes name hrest

/-- Words and operators are not identifiers. -/
theorem readRun_ne_name (c : Char) (cs rest : List Char) (name : String) :
    readRun c cs ≠ some (.name name, rest) := by
  unfold readRun
  generalize (if isOperatorChar c then isOperatorChar else isWordChar) = kind
  dsimp only
  intro h
  split at h
  · obtain ⟨t, ht, heq⟩ := Option.map_eq_some_iff.mp h
    obtain ⟨rfl, -⟩ := Prod.mk.inj heq
    have hknown : .name name ∈ Token.known := List.mem_of_find?_eq_some ht
    simp [Token.known] at hknown
  · cases h

/-- An identifier is read where it was written, if a quote does not follow. -/
theorem token?_eq_name_iff {cs rest : List Char} {name : String} :
    token? cs = some (.name name, rest) ↔
      cs = (quoteIdentifier name).toList ++ rest ∧ rest.head? ≠ some '"' := by
  constructor
  · intro h
    unfold token? at h
    split at h
    case h_5 cs =>
        obtain ⟨⟨read, after⟩, hread, heq⟩ := Option.map_eq_some_iff.mp h
        obtain ⟨hname, rfl⟩ := Prod.mk.inj heq
        obtain rfl := Token.name.inj hname
        obtain ⟨rfl, hrest⟩ := readQuoted_eq_some_iff.mp hread
        exact ⟨by simp [quoteIdentifier], hrest⟩
    case h_6 =>
        split at h
        · cases h
        · cases h
    case h_7 => exact absurd h (readRun_ne_name _ _ rest name)
    all_goals cases h
  · rintro ⟨rfl, hrest⟩
    exact token?_name name hrest

/-- If a text begins with two quoted names, a quote follows the one that ends earlier. -/
theorem append_quoteIdentifier_inj {name other : String} {rest after : List Char}
    (hrest : rest.head? ≠ some '"')
    (h : (quoteIdentifier name).toList ++ rest = (quoteIdentifier other).toList ++ after) :
    (name = other ∧ rest = after) ∨ after.head? = some '"' := by
  by_cases hafter : after.head? = some '"'
  · exact .inr hafter
  · have hread := token?_name name hrest
    rw [h, token?_name other hafter] at hread
    obtain ⟨hname, rfl⟩ := Prod.mk.inj (Option.some.inj hread)
    exact .inl ⟨(Token.name.inj hname).symm, rfl⟩

theorem quoteIdentifier_injective : Function.Injective quoteIdentifier := by
  intro name other h
  have htexts : (quoteIdentifier name).toList ++ [] = (quoteIdentifier other).toList ++ [] := by
    rw [h]
  obtain ⟨hname, -⟩ | hquote := append_quoteIdentifier_inj (by simp) htexts
  · exact hname
  · cases hquote

/-- A quoted name is one identifier, whatever the name is and whatever follows it but a quote: it is
read with its name, and reading goes on behind it.  Nothing else is read as this identifier.  So an
identifier cannot seem to end early, unless a quote follows there, and quoting loses nothing. -/
theorem quotation_unambiguous :
    (∀ (name : String) (rest : List Char), rest.head? ≠ some '"' →
      token? ((quoteIdentifier name).toList ++ rest) = some (.name name, rest) ∧
      lex ((quoteIdentifier name).toList ++ rest) = (lex rest).map (.name name :: ·)) ∧
    (∀ (cs rest : List Char) (name : String), token? cs = some (.name name, rest) ↔
      cs = (quoteIdentifier name).toList ++ rest ∧ rest.head? ≠ some '"') ∧
    (∀ (name other : String) (rest after : List Char), rest.head? ≠ some '"' →
      (quoteIdentifier name).toList ++ rest = (quoteIdentifier other).toList ++ after →
      (name = other ∧ rest = after) ∨ after.head? = some '"') ∧
    Function.Injective quoteIdentifier := by
  refine ⟨fun name rest hrest => ?_, fun cs rest name => token?_eq_name_iff,
    fun name other rest after => append_quoteIdentifier_inj, quoteIdentifier_injective⟩
  have hread := token?_name name hrest
  exact ⟨hread, lex_of_token? hread⟩

/-- A name with quotes at both ends and a placeholder inside. -/
def hostileName : String := "\"a\" = $1, \"\""

theorem quotation_unambiguous_hostileName :
    (" = $2".toList.head? ≠ some '"' ∧
      lex ((quoteIdentifier hostileName).toList ++ " = $2".toList) =
        some [.name hostileName, .blank, .comparison .eq, .blank, .slot 2]) ∧
    ("".toList.head? ≠ some '"' ∧ ∃ after, (quoteIdentifier "a\"").toList ++ "".toList =
        (quoteIdentifier "a").toList ++ after ∧ after.head? = some '"') := by
  obtain ⟨hread, -, hends, -⟩ := quotation_unambiguous
  have hapart : Separated [.blank, .comparison .eq, .blank, .slot 2] := by simp
  have hrest : lex " = $2".toList = some [.blank, .comparison .eq, .blank, .slot 2] :=
    lex_text hapart
  have hquote : " = $2".toList.head? ≠ some '"' := by decide
  have hempty : "".toList.head? ≠ some '"' := by decide
  obtain ⟨-, hlex⟩ := hread hostileName " = $2".toList hquote
  -- Behind the first quote of the name the identifier seems to end.
  have hsplit : (quoteIdentifier "a\"").toList ++ "".toList =
      (quoteIdentifier "a").toList ++ ['"', '"'] := by decide
  have hdiffer : ¬ ("a\"" = "a" ∧ "".toList = ['"', '"']) := by decide
  refine ⟨⟨hquote, ?_⟩, hempty, ['"', '"'], hsplit, ?_⟩
  · rw [hlex, hrest, Option.map_some]
  · exact (hends "a\"" "a" "".toList ['"', '"'] hempty hsplit).resolve_left hdiffer

end PgCollections.Sql
