import PgCollections.Proofs.Sql.Clause

/-! # The keywords of clauses

Which keywords a clause can contain.  Each clause behind another one starts with a keyword that the
clauses before it do not contain, so that a statement can be cut at these keywords; and `WHERE`
stands in a restriction only (`Leaf.where_mem_restriction_iff`). -/

namespace PgCollections

open Sql

theorem Sql.mem_commaSeparated {t : Token} {ts : List Token} (h : t ∈ commaSeparated ts) :
    t = .comma ∨ t ∈ ts := by
  rcases mem_intercalate h with h | ⟨part, hpart, h⟩
  · exact .inl (List.mem_singleton.mp h)
  · obtain ⟨u, hu, rfl⟩ := List.mem_map.mp hpart
    exact .inr (List.mem_singleton.mp h ▸ hu)

theorem keyword_not_mem_names (k : Keyword) (names : List String) :
    .keyword k ∉ commaSeparated (names.map .name) := by
  intro h
  simpa using mem_commaSeparated h

namespace Leaf

theorem keyword_not_mem_slots (k : Keyword) (n count : Nat) :
    .keyword k ∉ commaSeparated (slots n count) := by
  intro h
  simpa [slots] using mem_commaSeparated h

/-- The keywords that a leaf condition can contain. -/
theorem keyword_mem_tokens {k : Keyword} {n : Nat} {l : Leaf} (h : .keyword k ∈ l.tokens n) :
    k = .ANY ∨ k = .IN ∨ k = .FALSE := by
  cases l with
  | oneOf field v vs =>
      have hslots := keyword_not_mem_slots k n (v :: vs).length
      simp_all [tokens]
  | _ => simp_all [tokens, slots]

theorem forall_mem_numbered {P : List Token → Prop} (h : ∀ n l, P (tokens n l)) (n : Nat)
    (ls : List Leaf) : ∀ part ∈ numbered n ls, P part := by
  induction ls generalizing n with
  | nil => simp [numbered]
  | cons l ls ih => simpa [numbered, h] using ih _

/-- The keywords that a conjunction of leaf conditions can contain. -/
theorem keyword_mem_conjunction {k : Keyword} {n : Nat} {ls : List Leaf}
    (h : .keyword k ∈ conjunction n ls) : k = .AND ∨ k = .ANY ∨ k = .IN ∨ k = .FALSE := by
  rcases mem_intercalate h with h | ⟨part, hpart, h⟩
  · exact .inl (by simpa [andTokens] using h)
  · have htokens := forall_mem_numbered
      (P := fun part => .keyword k ∈ part → k = .ANY ∨ k = .IN ∨ k = .FALSE)
      (fun _ _ => keyword_mem_tokens) n ls
    exact .inr (htokens part hpart h)

/-- The keywords that a restriction can contain. -/
theorem keyword_mem_restriction {k : Keyword} {n : Nat} {ls : List Leaf}
    (h : .keyword k ∈ restriction n ls) :
    k = .WHERE ∨ k = .AND ∨ k = .ANY ∨ k = .IN ∨ k = .FALSE := by
  unfold restriction at h
  split at h
  · cases h
  · exact (List.mem_append.mp h).imp (by simp) keyword_mem_conjunction

theorem where_mem_restriction_iff (n : Nat) (ls : List Leaf) :
    .keyword .WHERE ∈ restriction n ls ↔ ls ≠ [] := by
  cases ls <;> simp [restriction]

end Leaf

/-- The keywords that a clause for sorting can contain. -/
theorem Order.keyword_mem_clauseTokens {k : Keyword} {orders : List Order}
    (h : .keyword k ∈ clauseTokens orders) : k = .ORDER ∨ k = .BY ∨ k = .ASC ∨ k = .DESC := by
  have hterm : ∀ order : Order, .keyword k ∈ order.tokens → k = .ASC ∨ k = .DESC := by
    rintro ⟨key, _ | _⟩ h <;> simp_all [tokens, Direction.token]
  unfold clauseTokens at h
  split at h
  · cases h
  · rcases List.mem_append.mp h with h | h
    · simp_all [← or_assoc]
    · rcases mem_intercalate h with h | ⟨part, hpart, h⟩
      · simp [separatorTokens] at h
      · obtain ⟨order, -, rfl⟩ := List.mem_map.mp hpart
        exact .inr (.inr (hterm order h))

/-- The keywords that a page can contain. -/
theorem keyword_mem_pageTokens {k : Keyword} {n : Nat} {page : Option (Nat × Option Nat)}
    (h : .keyword k ∈ pageTokens n page) : k = .LIMIT ∨ k = .OFFSET := by
  rcases page with _ | ⟨limit, _ | offset⟩ <;> simp_all [pageTokens]

theorem keyword_not_mem_assignmentTokens (k : Keyword) (n : Nat) (columns : List String) :
    .keyword k ∉ assignmentTokens n columns := by
  have hrow : .keyword k ∉ rowAssignmentTokens n columns := by
    simp [rowAssignmentTokens, tupleTokens, keyword_not_mem_names, Leaf.keyword_not_mem_slots]
  rcases columns with _ | ⟨column, _ | ⟨next, columns⟩⟩
  · exact hrow
  · simp [assignmentTokens]
  · exact hrow

end PgCollections
