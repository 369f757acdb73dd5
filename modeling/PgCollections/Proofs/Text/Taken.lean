import PgCollections.Proofs.Text.Scan

/-! # What scanners have taken

`Takes scan kind` says that whatever a scanner yields, the text that it took off the front is of a
kind, which may depend on what was yielded.  This is the converse of `Reads`: it says of every text
that is read what it looks like, so that the texts of two scanners can be told apart. -/

namespace PgCollections

namespace Scan

variable {α β : Type}

/-- What is yielded and the text that was taken for it are of the kind. -/
def Takes (scan : Scan α) (kind : α → List Char → Prop) : Prop :=
  ∀ cs a rest, scan.run cs = some (a, rest) → ∃ text, cs = text ++ rest ∧ kind a text

/-- A text that is read as a whole is of the kind. -/
theorem Takes.of_all? {scan : Scan α} {kind : α → List Char → Prop} (h : scan.Takes kind)
    {cs : List Char} {a : α} (hall : scan.all? cs = some a) : kind a cs := by
  unfold all? at hall
  split at hall
  case h_1 b hrun =>
      obtain rfl := Option.some.inj hall
      obtain ⟨text, rfl, hkind⟩ := h cs b [] hrun
      rwa [List.append_nil]
  case h_2 => cases hall

theorem Takes.mono {scan : Scan α} {kind kind' : α → List Char → Prop} (h : scan.Takes kind)
    (himp : ∀ a text, kind a text → kind' a text) : scan.Takes kind' := by
  intro cs a rest hrun
  obtain ⟨text, hcs, hkind⟩ := h cs a rest hrun
  exact ⟨text, hcs, himp a text hkind⟩

/-! ### Sequences -/

theorem takes_pure (a : α) : (pure a : Scan α).Takes fun b text => b = a ∧ text = [] := by
  intro cs b rest hrun
  cases hrun
  exact ⟨[], rfl, rfl, rfl⟩

theorem takes_failure (kind : α → List Char → Prop) : (failure : Scan α).Takes kind := by
  intro cs a rest hrun
  cases hrun

/-- What two scanners take one after the other. -/
theorem Takes.bind {scan : Scan α} {next : α → Scan β} {first : α → List Char → Prop}
    {second : α → β → List Char → Prop} (h : scan.Takes first)
    (hnext : ∀ a, (next a).Takes (second a)) :
    (scan >>= next).Takes fun b text =>
      ∃ a front back, text = front ++ back ∧ first a front ∧ second a b back := by
  intro cs b rest hrun
  rw [StateT.run_bind] at hrun
  obtain ⟨⟨a, middle⟩, hfirst, hsecond⟩ := Option.bind_eq_some_iff.mp hrun
  obtain ⟨front, rfl, hfront⟩ := h cs a middle hfirst
  obtain ⟨back, rfl, hback⟩ := hnext a middle b rest hsecond
  refine ⟨front ++ back, (List.append_assoc front back rest).symm, ?_⟩
  exact ⟨a, front, back, rfl, hfront, hback⟩

/-! ### Characters -/

theorem takes_oneOf (allowed : List Char) :
    (oneOf allowed).Takes fun c text => c ∈ allowed ∧ text = [c] := by
  intro cs c rest hrun
  cases cs with
  | nil => cases hrun
  | cons d cs =>
      obtain ⟨hallowed, heq⟩ := Option.ite_none_right_eq_some.mp hrun
      cases heq
      exact ⟨[c], rfl, hallowed, rfl⟩

theorem takes_char (c : Char) : (char c).Takes fun _ text => text = [c] := by
  intro cs u rest hrun
  cases cs with
  | nil => cases hrun
  | cons d cs =>
      obtain ⟨hd, heq⟩ := Option.ite_none_right_eq_some.mp hrun
      cases heq
      exact ⟨[d], rfl, by rw [hd]⟩

theorem takes_found (c : Char) :
    (found c).Takes fun hit text => text = if hit then [c] else [] := by
  intro cs hit rest hrun
  cases cs with
  | nil =>
      cases hrun
      exact ⟨[], rfl, rfl⟩
  | cons d cs =>
      simp only [found, foundOneOf, StateT.run, List.mem_singleton] at hrun
      split at hrun
      case isTrue hd =>
          cases hrun
          exact ⟨[d], rfl, by rw [hd]; rfl⟩
      case isFalse =>
          cases hrun
          exact ⟨[], rfl, rfl⟩

theorem takes_skipSpaces : skipSpaces.Takes fun _ text => ∀ c ∈ text, isSpace c := by
  intro cs u rest hrun
  cases hrun
  refine ⟨cs.takeWhile isSpace, List.takeWhile_append_dropWhile.symm, ?_⟩
  exact fun _ => List.mem_takeWhile_imp

theorem takes_span (kind : Char → Bool) :
    (span kind).Takes fun taken text => text = taken ∧ ∀ c ∈ taken, kind c := by
  intro cs taken rest hrun
  cases hrun
  exact ⟨cs.takeWhile kind, List.takeWhile_append_dropWhile.symm, rfl,
    fun _ => List.mem_takeWhile_imp⟩

/-! ### Digits -/

theorem takes_digits :
    digits.Takes fun ds text => text = ds ∧ ds ≠ [] ∧ ∀ c ∈ ds, c.isDigit := by
  have hchecked (taken : List Char) : (if taken.isEmpty then failure else pure taken : Scan _).Takes
      fun ds text => ds = taken ∧ taken ≠ [] ∧ text = [] := by
    split
    case isTrue => exact takes_failure _
    case isFalse hne =>
        refine (takes_pure taken).mono fun ds text htaken => ⟨htaken.1, ?_, htaken.2⟩
        exact mt List.isEmpty_iff.mpr hne
  refine ((takes_span Char.isDigit).bind hchecked).mono ?_
  rintro ds text ⟨taken, front, back, rfl, ⟨rfl, hdigits⟩, rfl, hne, rfl⟩
  exact ⟨List.append_nil _, hne, hdigits⟩

theorem takes_digitsUpTo (least most : Nat) :
    (digitsUpTo least most).Takes fun ds text => text = ds ∧ ∀ c ∈ ds, c.isDigit := by
  intro cs ds rest hrun
  obtain ⟨-, heq⟩ := Option.ite_none_right_eq_some.mp hrun
  cases heq
  have hfront : (cs.take most).takeWhile Char.isDigit <+: cs :=
    (List.takeWhile_prefix _).trans (List.take_prefix most cs)
  exact ⟨_, (List.prefix_iff_eq_append.mp hfront).symm, rfl, fun _ => List.mem_takeWhile_imp⟩

/-! ### Counting characters -/

/-- Whatever the scanner takes has that many characters of the kind. -/
def Counts (kind : Char → Bool) (n : Nat) (scan : Scan α) : Prop :=
  scan.Takes fun _ text => text.countP kind = n

namespace Counts

variable {kind : Char → Bool} {n m : Nat}

theorem bind {scan : Scan α} {next : α → Scan β} (h : Counts kind n scan)
    (hnext : ∀ a, Counts kind m (next a)) : Counts kind (n + m) (scan >>= next) := by
  refine (Takes.bind h hnext).mono ?_
  rintro b text ⟨a, front, back, rfl, rfl, rfl⟩
  exact List.countP_append

theorem pure (a : α) : Counts kind 0 (pure a : Scan α) :=
  (takes_pure a).mono fun _ _ htext => by rw [htext.2, List.countP_nil]

theorem ite {p : Prop} [Decidable p] {scan scan' : Scan α} (h : Counts kind n scan)
    (h' : Counts kind n scan') : Counts kind n (if p then scan else scan') := by
  split
  · exact h
  · exact h'

/-- A scanner of characters that are all of another kind. -/
theorem zero {scan : Scan α} {other : Char → Bool} (hother : ∀ c, other c → kind c = false)
    (h : scan.Takes fun _ text => ∀ c ∈ text, other c) : Counts kind 0 scan :=
  h.mono fun _ _ htext => List.countP_eq_zero.mpr fun c hc =>
    Bool.eq_false_iff.mp (hother c (htext c hc))

end Counts

end Scan

end PgCollections
