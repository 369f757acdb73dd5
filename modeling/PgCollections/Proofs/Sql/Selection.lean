import PgCollections.Proofs.Sql.Grammar
import PgCollections.Proofs.Sql.Statement

/-! # Selections

A `Selection` is what a selecting statement says: the table, the leaf conditions from left to right,
the sort terms and the page.  `Selection.of` is what a call asks for.  `Selection.read?` takes a
statement apart again: it cuts the tokens at the keywords of the clauses and reads each clause on
its own.  The main statements are `Selection.read?_select`, that a statement says what was asked
for, and hence `Statement.select_inj_iff`: two calls have the same statement only if they ask for
the same. -/

namespace PgCollections

open Sql

/-- The normal form of a selection. -/
structure Selection where
  table : String
  conditions : List Leaf
  order : List Order
  page : Option (Nat × Option Nat)

namespace Selection

def of (table : String) (filter : Filter) (options : FindOptions) : Selection :=
  ⟨table, filter.leaves, options.order, options.page⟩

end Selection

/-! ### Conditions -/

namespace Sql

def Operand.param? : Operand Json → Option Json
  | param v => some v
  | _ => none

/-- The column and the keys of a path. -/
def Operand.path? : Operand Json → Option (String × List Json)
  | column name => some (name, [])
  | step document (.param key) => do
    let (name, keys) ← document.path?
    return (name, keys ++ [key])
  | _ => none

def Atom.leaf? : Atom Json → Option Leaf
  | compare (.column field) c (.param v) => some (.compare field c v)
  | compare (.stepText document (.param last)) .eq (.param v) => do
    let (field, inner) ← document.path?
    return .path field inner last v
  | elementOf (.param v) (.column field) => some (.any field v)
  | member (.column field) items =>
    match items.mapM Operand.param? with
    | some (v :: vs) => some (.oneOf field v vs)
    | _ => none
  | never => some .never
  | _ => none

theorem Operand.path?_follow {document : Operand Json} {name : String} {keys : List Json}
    (h : document.path? = some (name, keys)) (more : List Json) :
    (document.follow more).path? = some (name, keys ++ more) := by
  induction more generalizing document keys with
  | nil => simpa [follow] using h
  | cons key more ih =>
      have hstep : (step document (.param key)).path? = some (name, keys ++ [key]) := by
        simp [path?, h]
      simpa [follow] using ih hstep

theorem mapM_param? (vs : List Json) : (vs.map Operand.param).mapM Operand.param? = some vs := by
  induction vs with
  | nil => rfl
  | cons v vs ih => simp [Operand.param?, ih]

end Sql

theorem Leaf.leaf?_bound (l : Leaf) : l.bound.leaf? = some l := by
  cases l with
  | oneOf field v vs => rw [bound, Atom.leaf?, mapM_param?]
  | path field inner last v =>
      have hcolumn : (Operand.column field).path? = some (field, []) := rfl
      rw [bound, Atom.leaf?, Operand.path?_follow hcolumn inner]
      rfl
  | _ => rfl

theorem Leaf.mapM_leaf?_bound (ls : List Leaf) :
    (ls.map bound).mapM Atom.leaf? = some ls := by
  induction ls with
  | nil => rfl
  | cons l ls ih => simp [leaf?_bound, ih]

/-! ### Clauses -/

namespace Selection

/-- The conditions of a clause, or none if there is no clause. -/
def conditions? (params : List Json) : List Token → Option (List Leaf)
  | [] => some []
  | .keyword .WHERE :: ts => do
    let atoms ← predicate? ts
    let conditions ← atoms.mapM (Atom.bound? params)
    conditions.mapM Atom.leaf?
  | _ => none

def direction? : Token → Option Direction
  | .keyword .ASC => some .asc
  | .keyword .DESC => some .desc
  | _ => none

def terms? : List Token → Option (List Order)
  | [.name key, t] => do return [⟨key, ← direction? t⟩]
  | .name key :: t :: .comma :: ts => do return ⟨key, ← direction? t⟩ :: (← terms? ts)
  | _ => none

def order? : List Token → Option (List Order)
  | [] => some []
  | .keyword .ORDER :: .keyword .BY :: ts => terms? ts
  | _ => none

/-- The number that a placeholder stands for. -/
def countAt? (params : List Json) (i : Nat) : Option Nat :=
  ((paramAt? params i).bind Json.asInt?).map Int.toNat

def page? (params : List Json) : List Token → Option (Option (Nat × Option Nat))
  | [] => some none
  | [.keyword .LIMIT, .slot i] => do return some (← countAt? params i, none)
  | [.keyword .LIMIT, .slot i, .keyword .OFFSET, .slot j] => do
    return some (← countAt? params i, some (← countAt? params j))
  | _ => none

/-- A clause for sorting or for paging starts here. -/
def startsOrder (t : Token) : Bool := t = .keyword .ORDER ∨ t = .keyword .LIMIT

def startsPage (t : Token) : Bool := t = .keyword .LIMIT

/-- What a statement selects. -/
def read? (s : Statement) : Option Selection := do
  let tokens ← lex s.sql.toList
  match visible tokens with
  | .keyword .SELECT :: .star :: .keyword .FROM :: .name table :: ts =>
    let behind := ts.dropWhile (!startsOrder ·)
    let conditions ← conditions? s.params (ts.takeWhile (!startsOrder ·))
    let order ← order? (behind.takeWhile (!startsPage ·))
    let page ← page? s.params (behind.dropWhile (!startsPage ·))
    return ⟨table, conditions, order, page⟩
  | _ => none

theorem conditions?_restriction {params : List Json} {n : Nat} {ls : List Leaf}
    (h : Supplied params n (Leaf.allValues ls)) :
    conditions? params (visible (Leaf.restriction n ls)) = some ls := by
  cases ls with
  | nil => rfl
  | cons l ls =>
      have hwhere : visible [.blank, .keyword .WHERE, .blank] = [.keyword .WHERE] := rfl
      rw [Leaf.restriction, if_neg (by simp), visible_append, hwhere, List.singleton_append,
        conditions?, Leaf.predicate?_conjunction, Option.bind_eq_bind, Option.bind_some,
        Leaf.bound?_atoms h]
      exact Leaf.mapM_leaf?_bound (l :: ls)

theorem direction?_token (dir : Direction) : direction? dir.token = some dir := by
  cases dir <;> rfl

theorem visible_tokens (order : Order) :
    visible order.tokens = [.name order.key, order.dir.token] := by
  obtain ⟨key, _ | _⟩ := order <;> rfl

theorem terms?_intercalate (order : Order) (orders : List Order) :
    terms? (visible (Order.separatorTokens.intercalate ((order :: orders).map Order.tokens))) =
      some (order :: orders) := by
  induction orders generalizing order with
  | nil =>
      rw [List.map_singleton, List.intercalate_singleton, visible_tokens, terms?, direction?_token]
      rfl
  | cons next orders ih =>
      have hsep : visible Order.separatorTokens = [.comma] := rfl
      rw [List.map_cons, List.map_cons, intercalate_cons_cons, ← List.map_cons, visible_append,
        visible_append, hsep, visible_tokens]
      simp only [List.cons_append, List.nil_append, terms?, direction?_token, ih next]
      rfl

theorem order?_clauseTokens (orders : List Order) :
    order? (visible (Order.clauseTokens orders)) = some orders := by
  cases orders with
  | nil => rfl
  | cons order orders =>
      have hby : visible [.blank, .keyword .ORDER, .blank, .keyword .BY, .blank] =
          [.keyword .ORDER, .keyword .BY] := rfl
      rw [Order.clauseTokens, if_neg (by simp), visible_append, hby]
      exact terms?_intercalate order orders

theorem countAt?_nat {params : List Json} {i n : Nat} (h : paramAt? params i = some (.nat n)) :
    countAt? params i = some n := by
  rw [countAt?, h]
  rfl

theorem page?_pageTokens {params : List Json} {n : Nat} {page : Option (Nat × Option Nat)}
    (h : Supplied params n (pageValues page)) :
    page? params (visible (pageTokens n page)) = some page := by
  rcases page with _ | ⟨limit, _ | offset⟩
  · rfl
  · obtain ⟨hlimit, -⟩ := supplied_cons.mp h
    have htokens : visible (pageTokens n (some (limit, none))) =
        [.keyword .LIMIT, .slot (n + 1)] := rfl
    rw [htokens, page?, countAt?_nat hlimit]
    rfl
  · obtain ⟨hlimit, hrest⟩ := supplied_cons.mp h
    obtain ⟨hoffset, -⟩ := supplied_cons.mp hrest
    have htokens : visible (pageTokens n (some (limit, some offset))) =
        [.keyword .LIMIT, .slot (n + 1), .keyword .OFFSET, .slot (n + 2)] := rfl
    rw [htokens, page?, countAt?_nat hlimit, countAt?_nat hoffset]
    rfl

/-! ### Statements -/

theorem startsOrder_of_mem_restriction {n : Nat} {ls : List Leaf} :
    ∀ t ∈ visible (Leaf.restriction n ls), startsOrder t = false := by
  intro t h
  cases t with
  | keyword k =>
      rcases Leaf.keyword_mem_restriction (List.mem_of_mem_filter h) with
        rfl | rfl | rfl | rfl | rfl <;> rfl
  | _ => rfl

theorem startsPage_of_mem_clauseTokens {orders : List Order} :
    ∀ t ∈ visible (Order.clauseTokens orders), startsPage t = false := by
  intro t h
  cases t with
  | keyword k =>
      rcases Order.keyword_mem_clauseTokens (List.mem_of_mem_filter h) with
        rfl | rfl | rfl | rfl <;> rfl
  | _ => rfl

theorem startsPage_of_mem_head? (n : Nat) (page : Option (Nat × Option Nat)) :
    ∀ t ∈ (visible (pageTokens n page)).head?, startsPage t = true := by
  rcases page with _ | ⟨limit, _ | offset⟩ <;> simp [pageTokens, visible, Token.isBlank, startsPage]

theorem startsOrder_of_mem_head? (orders : List Order) (n : Nat)
    (page : Option (Nat × Option Nat)) :
    ∀ t ∈ (visible (Order.clauseTokens orders) ++ visible (pageTokens n page)).head?,
      startsOrder t = true := by
  cases orders with
  | nil =>
      intro t ht
      have hpage := startsPage_of_mem_head? n page t ht
      simp_all [startsOrder, startsPage]
  | cons order orders =>
      simp [Order.clauseTokens, visible, Token.isBlank, startsOrder]

/-- The clauses behind a restriction are cut off from it. -/
theorem cut_restriction (n : Nat) (ls : List Leaf) (orders : List Order) (m : Nat)
    (page : Option (Nat × Option Nat)) :
    let behind := visible (Order.clauseTokens orders) ++ visible (pageTokens m page)
    (visible (Leaf.restriction n ls) ++ behind).takeWhile (!startsOrder ·) =
        visible (Leaf.restriction n ls) ∧
      (visible (Leaf.restriction n ls) ++ behind).dropWhile (!startsOrder ·) = behind := by
  refine span_run _ (fun t ht => ?_) fun t ht => ?_
  · rw [startsOrder_of_mem_restriction t ht, Bool.not_false]
  · rw [startsOrder_of_mem_head? orders m page t ht, Bool.not_true]

/-- A page is cut off from the sort terms before it. -/
theorem cut_clauseTokens (orders : List Order) (m : Nat) (page : Option (Nat × Option Nat)) :
    (visible (Order.clauseTokens orders) ++ visible (pageTokens m page)).takeWhile
          (!startsPage ·) = visible (Order.clauseTokens orders) ∧
      (visible (Order.clauseTokens orders) ++ visible (pageTokens m page)).dropWhile
          (!startsPage ·) = visible (pageTokens m page) := by
  refine span_run _ (fun t ht => ?_) fun t ht => ?_
  · rw [startsPage_of_mem_clauseTokens t ht, Bool.not_false]
  · rw [startsPage_of_mem_head? m page t ht, Bool.not_true]

theorem visible_selectTokens (table : String) (ls : List Leaf) (options : FindOptions) :
    visible (Statement.selectTokens table ls options) =
      .keyword .SELECT :: .star :: .keyword .FROM :: .name table ::
        (visible (Leaf.restriction 0 ls) ++ (visible (Order.clauseTokens options.order) ++
          visible (pageTokens (Leaf.allValues ls).length options.page))) := by
  rw [Statement.selectTokens, visible_append, visible_append, visible_append, List.append_assoc,
    List.append_assoc]
  rfl

/-- A statement selects what was asked for. -/
theorem read?_select {table : String} {filter : Filter} {options : FindOptions} {s : Statement}
    (h : Statement.select table filter options = .ok s) :
    read? s = some (.of table filter options) := by
  rw [Statement.select_eq] at h
  obtain ⟨-, rfl⟩ := Filter.checked_eq_ok_iff.mp h
  have hlex := lex_text (Statement.passage_selectTokens table filter.leaves options).separated
  have hconditions := conditions?_restriction
    (supplied_middle [] (Leaf.allValues filter.leaves) (pageValues options.page))
  have hpage := page?_pageTokens
    (supplied_middle (Leaf.allValues filter.leaves) (pageValues options.page) [])
  rw [List.nil_append, List.length_nil] at hconditions
  rw [List.append_nil] at hpage
  obtain ⟨hrestriction, hbehind⟩ := cut_restriction 0 filter.leaves options.order
    (Leaf.allValues filter.leaves).length options.page
  obtain ⟨horder, hrest⟩ := cut_clauseTokens options.order (Leaf.allValues filter.leaves).length
    options.page
  simp only [read?, hlex, Option.bind_eq_bind, Option.bind_some,
    visible_selectTokens, hrestriction, hbehind, horder, hrest, hconditions, hpage,
    order?_clauseTokens]
  rfl

end Selection

/-- Two calls have the same statement exactly if they ask for the same. -/
theorem Statement.select_inj_iff {table table' : String} {filter filter' : Filter}
    {options options' : FindOptions} {s s' : Statement} (h : select table filter options = .ok s)
    (h' : select table' filter' options' = .ok s') :
    (s.sql = s'.sql ∧ s.params = s'.params) ↔
      Selection.of table filter options = Selection.of table' filter' options' := by
  constructor
  · -- Both calls can be read back from the one statement.
    rintro ⟨hsql, hparams⟩
    have hs : s = s' := by
      cases s
      cases s'
      simp_all
    have hread := Selection.read?_select h
    rw [hs, Selection.read?_select h'] at hread
    exact (Option.some.inj hread).symm
  · intro hof
    obtain ⟨rfl, hconditions, horder, hpage⟩ := Selection.mk.inj hof
    rw [select_eq] at h h'
    obtain ⟨-, rfl⟩ := Filter.checked_eq_ok_iff.mp h
    obtain ⟨-, rfl⟩ := Filter.checked_eq_ok_iff.mp h'
    simp only [selectTokens, hconditions, horder, hpage, and_self]

/-- Conjunctions of one comparison, the field of an empty list, a limit of zero and an offset
without a limit make no difference. -/
theorem Statement.select_inj_iff_nested :
    ∃ s s',
      select "t" ⟨[("a\"", .value (.nat 1)), ("b", .operator (.oneOf []))]⟩
        { offset := some 3, order := [⟨"c", .desc⟩] } = .ok s ∧
      select "t" ⟨[("a\"", .operator (.all [.all [.compare .eq (.nat 1)]])),
        ("d", .operator (.oneOf []))]⟩ { limit := some 0, order := [⟨"c", .desc⟩] } = .ok s' ∧
      s.sql = s'.sql ∧ s.params = s'.params := by
  have h : select "t" ⟨[("a\"", .value (.nat 1)), ("b", .operator (.oneOf []))]⟩
    { offset := some 3, order := [⟨"c", .desc⟩] } = .ok _ := rfl
  have h' : select "t" ⟨[("a\"", .operator (.all [.all [.compare .eq (.nat 1)]])),
    ("d", .operator (.oneOf []))]⟩ { limit := some 0, order := [⟨"c", .desc⟩] } = .ok _ := rfl
  exact ⟨_, _, h, h', (select_inj_iff h h').mpr rfl⟩

end PgCollections
