import Mathlib.Data.List.Forall2
import Mathlib.Data.List.Induction
import Mathlib.Data.List.Nodup
import PgCollections.Keyed

/-! # Traversals and maps

When one step after the other succeeds (`bind_eq_ok_iff`), what reading the elements of a list one
by one gives (`mapM_eq_ok_iff`, `mapM_eq_some_iff`), with which error it ends
(`mapM_eq_error_iff`), which pairs a map keeps when they are inserted one after the other
(`Keyed.ofList_of_nodup`), in which order (`Keyed.keys_ofList`), and where they are found
(`Keyed.get?_ofList`, `Keyed.get?_ofList_eq_some_iff`, `Keyed.get?_of_mem`). -/

namespace PgCollections

/-! ### Sequences -/

theorem bind_eq_ok_iff {ε α β : Type} {x : Except ε α} {f : α → Except ε β} {b : β} :
    (x >>= f) = .ok b ↔ ∃ a, x = .ok a ∧ f a = .ok b := by
  cases x <;> simp [bind, Except.bind]

theorem mapError_eq_ok_iff {ε ε' α : Type} {x : Except ε α} {f : ε → ε'} {a : α} :
    x.mapError f = .ok a ↔ x = .ok a := by
  cases x <;> simp [Except.mapError]

/-! ### Traversals -/

/-- A traversal that succeeds gives the result of every element. -/
theorem mapM_eq_ok_iff {ε α β : Type} {f : α → Except ε β} {xs : List α} {ys : List β} :
    xs.mapM f = .ok ys ↔ List.Forall₂ (fun x y => f x = .ok y) xs ys := by
  induction xs generalizing ys with
  | nil => cases ys <;> simp [pure, Except.pure]
  | cons x xs ih =>
      rw [List.mapM_cons]
      cases hx : f x with
      | error e => cases ys <;> simp [bind, Except.bind, hx]
      | ok y =>
          cases hxs : xs.mapM f with
          | error e => cases ys <;> simp [bind, Except.bind, hx, ← ih, hxs]
          | ok tail => cases ys <;> simp [bind, Except.bind, pure, Except.pure, hx, ← ih, hxs]

/-- The same of a traversal that gives no reason when it fails. -/
theorem mapM_eq_some_iff {α β : Type} {f : α → Option β} {xs : List α} {ys : List β} :
    xs.mapM f = some ys ↔ List.Forall₂ (fun x y => f x = some y) xs ys := by
  induction xs generalizing ys with
  | nil => cases ys <;> simp
  | cons x xs ih =>
      rw [List.mapM_cons]
      cases hx : f x with
      | none => cases ys <;> simp [hx]
      | some y =>
          cases hxs : xs.mapM f with
          | none => cases ys <;> simp [hx, ← ih, hxs]
          | some tail => cases ys <;> simp [hx, ← ih, hxs]

theorem exists_forall₂_iff {α β : Type} {R : α → β → Prop} {xs : List α} :
    (∃ ys, List.Forall₂ R xs ys) ↔ ∀ x ∈ xs, ∃ y, R x y := by
  induction xs with
  | nil => simp
  | cons x xs ih =>
      simp only [List.forall₂_cons_left_iff, List.forall_mem_cons, ← ih]
      constructor
      · rintro ⟨_, y, ys, hy, hys, -⟩
        exact ⟨⟨y, hy⟩, ys, hys⟩
      · rintro ⟨⟨y, hy⟩, ys, hys⟩
        exact ⟨_, y, ys, hy, hys, rfl⟩

/-- A traversal that fails ends with the fault of the first element that has one. -/
theorem mapM_eq_error_iff {ε α β : Type} {f : α → Except ε β} {fault? : α → Option ε}
    {xs : List α} {e : ε} (h : ∀ x ∈ xs, ∀ e, f x = .error e ↔ fault? x = some e) :
    xs.mapM f = .error e ↔ xs.findSome? fault? = some e := by
  induction xs with
  | nil => simp [pure, Except.pure]
  | cons x xs ih =>
      have hx := h x List.mem_cons_self
      have hxs := ih fun x' hx' => h x' (List.mem_cons_of_mem x hx')
      rw [List.mapM_cons, List.findSome?_cons]
      cases hfx : f x with
      | error e' =>
          rw [(hx e').mp hfx]
          simp [bind, Except.bind]
      | ok y =>
          have hnone : fault? x = none := by
            refine Option.eq_none_iff_forall_ne_some.mpr fun e' he' => ?_
            rw [(hx e').mpr he'] at hfx
            cases hfx
          rw [hnone, ← hxs]
          cases xs.mapM f <;> simp [bind, Except.bind, pure, Except.pure]

theorem findSome?_flatMap {α β γ : Type} (f : α → List β) (g : β → Option γ) (xs : List α) :
    (xs.flatMap f).findSome? g = xs.findSome? fun x => (f x).findSome? g := by
  induction xs with
  | nil => rfl
  | cons x xs ih =>
      rw [List.flatMap_cons, List.findSome?_append, ih, List.findSome?_cons]
      cases (f x).findSome? g <;> rfl

/-- In lists of equal length one after the other, a place is found by list and by column. -/
theorem getElem?_flatMap {α β : Type} {f : α → List β} {count : Nat}
    (hcount : ∀ a, (f a).length = count) {as : List α} {i : Nat} {a : α} (ha : as[i]? = some a)
    {j : Nat} (hj : j < count) : (as.flatMap f)[i * count + j]? = (f a)[j]? := by
  induction as generalizing i with
  | nil => simp at ha
  | cons first as ih =>
      rw [List.flatMap_cons]
      cases i with
      | zero =>
          obtain rfl := Option.some.inj ha
          rw [Nat.zero_mul, Nat.zero_add, List.getElem?_append_left (by rw [hcount]; exact hj)]
      | succ i =>
          have hplace : (i + 1) * count + j = count + (i * count + j) := by
            rw [Nat.succ_mul]
            omega
          -- The first list is passed over.
          rw [hplace, ← hcount first, List.getElem?_append_right (Nat.le_add_right _ _),
            Nat.add_sub_cancel_left, hcount, ih ha]

/-- At the end, an element that is there already is left out. -/
theorem eraseDups_concat {α : Type} [DecidableEq α] (as : List α) (a : α) :
    (as ++ [a]).eraseDups = if a ∈ as then as.eraseDups else as.eraseDups ++ [a] := by
  rw [List.eraseDups_append]
  split_ifs with hmem <;> simp [List.removeAll, hmem, List.eraseDups_cons]

/-! ### Maps -/

namespace Keyed

variable {α : Type}

theorem keys_append (entries more : Keyed α) : keys (entries ++ more) = keys entries ++ keys more :=
  List.map_append

theorem insert_of_notMem {entries : Keyed α} {key : String} (h : key ∉ keys entries) (value : α) :
    insert entries key value = entries ++ [(key, value)] := by
  induction entries with
  | nil => rfl
  | cons entry entries ih =>
      obtain ⟨hne, hrest⟩ := not_or.mp (mt List.mem_cons.mpr h)
      rw [insert, if_neg (Ne.symm hne), ih hrest, List.cons_append]

theorem mem_insert {entries : Keyed α} {key : String} {value : α} {entry : String × α}
    (h : entry ∈ insert entries key value) : entry = (key, value) ∨ entry ∈ entries := by
  induction entries with
  | nil => exact .inl (List.mem_singleton.mp h)
  | cons first entries ih =>
      rw [insert] at h
      split_ifs at h with hkey
      · rcases List.mem_cons.mp h with hnew | hold
        · exact .inl hnew
        · exact .inr (List.mem_cons_of_mem first hold)
      · rcases List.mem_cons.mp h with hfirst | hrest
        · exact .inr (hfirst ▸ List.mem_cons_self)
        · exact (ih hrest).imp_right (List.mem_cons_of_mem first)

theorem keys_insert_of_mem {entries : Keyed α} {key : String} (h : key ∈ keys entries) (value : α) :
    keys (insert entries key value) = keys entries := by
  induction entries with
  | nil => cases h
  | cons entry entries ih =>
      rw [insert]
      split_ifs with hkey
      · simp [keys, hkey]
      · have hrest : key ∈ keys entries := (List.mem_cons.mp h).resolve_left (Ne.symm hkey)
        exact congrArg (entry.1 :: ·) (ih hrest)

theorem get?_cons (entry : String × α) (entries : Keyed α) (key : String) :
    get? (entry :: entries) key = if key = entry.1 then some entry.2 else get? entries key := by
  rw [get?, List.lookup_cons]
  split
  case h_1 heq => rw [if_pos (eq_of_beq heq)]
  case h_2 hne => rw [if_neg (ne_of_beq_false hne), get?]

/-- Only the name that is inserted gets another value. -/
theorem get?_insert (entries : Keyed α) (key : String) (value : α) (key' : String) :
    get? (insert entries key value) key' =
      if key' = key then some value else get? entries key' := by
  induction entries with
  | nil => exact get?_cons (key, value) [] key'
  | cons entry entries ih =>
      rw [insert]
      split_ifs with hkey hsame hsame
      · rw [get?_cons, if_pos hsame]
      · rw [get?_cons, if_neg hsame, get?_cons, if_neg (hkey ▸ hsame)]
      · rw [get?_cons, ih, if_pos hsame, if_neg (hsame ▸ Ne.symm hkey)]
      · rw [get?_cons, ih, if_neg hsame, get?_cons]

theorem nodup_keys_insert {entries : Keyed α} (h : (keys entries).Nodup) (key : String)
    (value : α) : (keys (insert entries key value)).Nodup := by
  by_cases hkey : key ∈ keys entries
  · rwa [keys_insert_of_mem hkey]
  · have hconcat := h.concat hkey
    rw [List.concat_eq_append] at hconcat
    rw [insert_of_notMem hkey, keys_append]
    exact hconcat

theorem foldl_insert {entries pairs : Keyed α} (h : (keys entries ++ keys pairs).Nodup) :
    pairs.foldl (fun entries pair => insert entries pair.1 pair.2) entries = entries ++ pairs := by
  induction pairs generalizing entries with
  | nil => simp
  | cons pair pairs ih =>
      have hnew : pair.1 ∉ keys entries ++ keys pairs := (List.nodup_middle.mp h).notMem
      have hrest : (keys (entries ++ [pair]) ++ keys pairs).Nodup := by
        simpa [keys] using h
      rw [List.foldl_cons, insert_of_notMem fun hmem => hnew (List.mem_append_left _ hmem),
        ih hrest, List.append_assoc]
      rfl

/-- Distinct names stay as they are. -/
theorem ofList_of_nodup {pairs : Keyed α} (h : (keys pairs).Nodup) : ofList pairs = pairs :=
  foldl_insert h

theorem nodup_keys_foldl_insert {entries : Keyed α} (h : (keys entries).Nodup)
    (pairs : List (String × α)) :
    (keys (pairs.foldl (fun entries pair => insert entries pair.1 pair.2) entries)).Nodup := by
  induction pairs generalizing entries with
  | nil => exact h
  | cons pair pairs ih => exact ih (nodup_keys_insert h pair.1 pair.2)

theorem nodup_keys_ofList (pairs : List (String × α)) : (keys (ofList pairs)).Nodup := by
  have hempty : (keys ([] : Keyed α)).Nodup := List.nodup_nil
  exact nodup_keys_foldl_insert hempty pairs

theorem ofList_append (pairs : List (String × α)) (pair : String × α) :
    ofList (pairs ++ [pair]) = insert (ofList pairs) pair.1 pair.2 :=
  List.foldl_append

/-- The names stand in the order of their first insertions. -/
theorem keys_ofList (pairs : List (String × α)) : keys (ofList pairs) = (keys pairs).eraseDups := by
  induction pairs using List.reverseRecOn with
  | nil => rfl
  | append_singleton pairs pair ih =>
      have hmem : pair.1 ∈ keys (ofList pairs) ↔ pair.1 ∈ keys pairs := by
        rw [ih, List.mem_eraseDups]
      have hkeys : keys (pairs ++ [pair]) = keys pairs ++ [pair.1] := keys_append pairs [pair]
      rw [ofList_append, hkeys, eraseDups_concat, ← ih]
      split_ifs with hkey
      · exact keys_insert_of_mem (hmem.mpr hkey) pair.2
      · rw [insert_of_notMem (mt hmem.mp hkey), keys_append]
        rfl

/-- A name has the value of its last insertion. -/
theorem get?_ofList (pairs : List (String × α)) (key : String) :
    get? (ofList pairs) key = get? pairs.reverse key := by
  induction pairs using List.reverseRecOn with
  | nil => rfl
  | append_singleton pairs pair ih =>
      rw [ofList_append, get?_insert, ih, List.reverse_append]
      exact (get?_cons pair pairs.reverse key).symm

/-- The value of a name is that of the last pair that has the name. -/
theorem get?_ofList_eq_some_iff {pairs : List (String × α)} {key : String} {value : α} :
    get? (ofList pairs) key = some value ↔
      ∃ front back, pairs = front ++ (key, value) :: back ∧ ∀ pair ∈ back, pair.1 ≠ key := by
  rw [get?_ofList, get?, List.lookup_eq_some_iff]
  constructor
  · rintro ⟨front, back, hpairs, hfront⟩
    refine ⟨back.reverse, front.reverse, ?_, ?_⟩
    · rw [← List.reverse_inj, hpairs]
      simp
    · intro pair hpair
      exact (bne_iff_ne.mp (hfront pair (List.mem_reverse.mp hpair))).symm
  · rintro ⟨front, back, rfl, hback⟩
    refine ⟨back.reverse, front.reverse, by simp, ?_⟩
    intro pair hpair
    exact bne_iff_ne.mpr (hback pair (List.mem_reverse.mp hpair)).symm

theorem get?_of_mem {entries : Keyed α} (h : (keys entries).Nodup) {key : String} {value : α}
    (hmem : (key, value) ∈ entries) : get? entries key = some value := by
  obtain ⟨front, back, rfl⟩ := List.append_of_mem hmem
  have hnodup : (keys front ++ key :: keys back).Nodup := by
    simpa [keys] using h
  have hfront : key ∉ keys front := fun hmem =>
    (List.nodup_middle.mp hnodup).notMem (List.mem_append_left _ hmem)
  refine List.lookup_eq_some_iff.mpr ⟨front, back, rfl, fun entry hentry => ?_⟩
  refine bne_iff_ne.mpr fun heq => hfront ?_
  rw [heq]
  exact List.mem_map_of_mem hentry

end Keyed

end PgCollections
