import PgCollections.Proofs.Filter.Meaning
import PgCollections.Proofs.Sql.Grammar

/-! # The meaning of predicates

A predicate is read from its text by the grammar, its placeholders are replaced by the parameters,
and the conditions it joins are evaluated under an interpretation.  The main statement is
`Filter.truth?_predicate`: the predicate of a filter has the truth value of the filter, for every
interpretation and every row, whatever was bound before. -/

namespace PgCollections

universe u v

variable {ρ : Type u} {α : Type v} (I : Interpretation ρ α) (row : ρ)

namespace Sql

def Operand.eval : Operand Json → α
  | column name => I.column row name
  | param value => I.value value
  | step document key => I.step document.eval key.eval
  | stepText document key => I.stepText document.eval key.eval

def Atom.eval : Atom Json → Truth
  | compare left c right => I.compare c (left.eval I row) (right.eval I row)
  | elementOf value list => I.elementOf (value.eval I row) (list.eval I row)
  | member value items => I.member (value.eval I row) (items.map (Operand.eval I row))
  | never => .fails

/-- The truth of the text of a predicate for a row, if it is a predicate and has its parameters. -/
def truth? (params : List Json) (sql : String) : Option Truth := do
  let tokens ← lex sql.toList
  let atoms ← predicate? (visible tokens)
  let conditions ← atoms.mapM (Atom.bound? params)
  return Truth.all (conditions.map (Atom.eval I row))

theorem Operand.eval_follow (document : Operand Json) (keys : List Json) :
    (document.follow keys).eval I row =
      keys.foldl (fun d key => I.step d (I.value key)) (document.eval I row) := by
  induction keys generalizing document with
  | nil => rfl
  | cons key keys ih => exact ih _

end Sql

open Sql

theorem Leaf.eval_bound (l : Leaf) : l.bound.eval I row = l.meaning I row := by
  cases l with
  | oneOf field v vs => simp [bound, meaning, Atom.eval, Operand.eval, Function.comp_def]
  | path field inner last v =>
      simp only [bound, meaning, Atom.eval, Operand.eval, Operand.eval_follow,
        Interpretation.follow_append_last]
  | _ => rfl

/-- The text of leaf conditions has their truth, if the parameters supply their values. -/
theorem Leaf.truth?_conjunction {params : List Json} {n : Nat} {ls : List Leaf}
    (h : Supplied params n (allValues ls)) :
    truth? I row params (text (conjunction n ls)) = some (Truth.all (ls.map (meaning I row))) := by
  have hlex := lex_text (passage_conjunction n ls).separated
  have heval : Atom.eval I row ∘ bound = meaning I row := funext (eval_bound I row)
  simp only [truth?, hlex, Option.bind_eq_bind, Option.bind_some, predicate?_conjunction,
    bound?_atoms h, List.map_map, heval, Option.pure_def]

/-- The predicate of a filter is true of the rows that the filter is true of. -/
theorem Filter.truth?_predicate {filter : Filter} {b bound : Bindings} {sql : String}
    (haligned : b.Aligned) (h : filter.predicate.runFrom b = (.ok sql, bound)) :
    truth? I row bound.params sql = some (filter.meaning I row) := by
  rw [runFrom_predicate, Parts.compiled] at h
  obtain ⟨hsql, rfl⟩ := Prod.mk.inj h
  cases hfault : Parts.fault? filter.parts with
  | some e => rw [hfault] at hsql; cases hsql
  | none =>
      rw [hfault] at hsql
      obtain rfl := Except.ok.inj hsql
      -- The placeholders after number `b.index` stand for what was bound behind `b.params`.
      have hsupplied := supplied_middle b.params (Leaf.allValues filter.leaves) []
      rw [List.append_nil, ← haligned] at hsupplied
      rw [meaning_eq_all_leaves I row hfault]
      exact Leaf.truth?_conjunction I row hsupplied

/-- Whole numbers and texts are compared among themselves; all else is unknown. -/
def plainValues : Interpretation Row Json where
  column row name := (Keyed.get? row name).getD .null
  value v := v
  compare
    | .eq, .string s, .string t => if s = t then .holds else .fails
    | .eq, .number (.int m), .number (.int n) => if m = n then .holds else .fails
    | .lt, .number (.int m), .number (.int n) => if m < n then .holds else .fails
    | _, _, _ => .unknown
  elementOf
    | .number (.int n), .array items => if items.any (·.asInt? = some n) then .holds else .fails
    | _, _ => .unknown
  member
    | .number (.int n), items => if items.any (·.asInt? = some n) then .holds else .fails
    | _, _ => .unknown
  step
    | document, .string name => (document.field? name).getD .null
    | _, _ => .null
  stepText
    | document, .string name => .string (((document.field? name).bind Json.asString?).getD "")
    | _, _ => .null

/-- A filter with every kind of operator, a nested conjunction and a name with quotes. -/
def nestedFilter : Filter :=
  ⟨[("a\" OR \"b", .operator (.all [.compare .lt (.nat 5), .all [.oneOf [.nat 1, .nat 2]]])),
    ("doc", .operator (.path [.string "x", .string "y"] (.string "z"))),
    ("tags", .operator (.any (.nat 7))), ("n", .value (.nat 3))]⟩

def nestedRow : Row :=
  [("a\" OR \"b", .nat 2), ("doc", .object [("x", .object [("y", .string "z")])]),
    ("tags", .array [.nat 6, .nat 7]), ("n", .nat 3)]

theorem Filter.truth?_predicate_nestedFilter :
    Bindings.Aligned ⟨1, [.null]⟩ ∧
      ∃ sql bound, nestedFilter.predicate.runFrom ⟨1, [.null]⟩ = (.ok sql, bound) ∧
        truth? plainValues nestedRow bound.params sql = some .holds := by
  have haligned : Bindings.Aligned ⟨1, [.null]⟩ := rfl
  have h : nestedFilter.predicate.runFrom ⟨1, [.null]⟩ = (.ok _, _) := rfl
  exact ⟨haligned, _, _, h, truth?_predicate plainValues nestedRow haligned h⟩

end PgCollections
