import Mathlib.Algebra.Ring.Nat
import Mathlib.Data.List.TakeWhile
import PgCollections.Text.Scan

/-! # What scanners read

`Reads scan text a rest` says that the scanner takes exactly `text` off the front when `rest`
follows it, and yields `a`; `Refuses scan text` says that it yields nothing.  Scanners that take as
much as they can do so only before a rest that `Stops` them.  Decimal digits, padded or not, are
read back as the number they were written for (`digitsValue_paddedDigits`). -/

namespace PgCollections

namespace Scan

variable {α β : Type}

/-- The scanner takes the text, which the rest follows, and yields the value. -/
def Reads (scan : Scan α) (text : List Char) (a : α) (rest : List Char) : Prop :=
  scan.run (text ++ rest) = some (a, rest)

/-- The scanner takes nothing off the text. -/
def Refuses (scan : Scan α) (text : List Char) : Prop := scan.run text = none

/-- The rest does not begin with a character of the kind. -/
def Stops (kind : Char → Bool) (rest : List Char) : Prop :=
  ∀ c, rest.head? = some c → kind c = false

theorem stops_nil (kind : Char → Bool) : Stops kind [] := by
  intro c hc
  cases hc

theorem stops_cons {kind : Char → Bool} {c : Char} (h : kind c = false) (rest : List Char) :
    Stops kind (c :: rest) := by
  intro d hd
  obtain rfl := Option.some.inj hd
  exact h

/-! ### Runs of characters -/

theorem takeWhile_append {kind : Char → Bool} {text rest : List Char} (h : ∀ c ∈ text, kind c)
    (hrest : Stops kind rest) : (text ++ rest).takeWhile kind = text := by
  rw [List.takeWhile_append_of_pos h]
  cases rest with
  | nil => simp
  | cons c rest => simp [hrest c rfl]

theorem dropWhile_append {kind : Char → Bool} {text rest : List Char} (h : ∀ c ∈ text, kind c)
    (hrest : Stops kind rest) : (text ++ rest).dropWhile kind = rest := by
  rw [List.dropWhile_append_of_pos h]
  cases rest with
  | nil => simp
  | cons c rest => simp [hrest c rfl]

theorem dropWhile_eq_self {kind : Char → Bool} {cs : List Char} (h : ∀ c ∈ cs, kind c = false) :
    cs.dropWhile kind = cs := by
  rw [List.dropWhile_eq_self_iff]
  intro hlength
  rw [h _ (List.getElem_mem hlength)]
  exact Bool.false_ne_true

/-! ### Sequences -/

theorem all?_eq_some {scan : Scan α} {text : List Char} {a : α} (h : scan.Reads text a []) :
    scan.all? text = some a := by
  unfold Reads at h
  rw [List.append_nil] at h
  rw [all?, h]

/-- A text is refused if something is left of it. -/
theorem all?_eq_none {scan : Scan α} {text rest : List Char} {a : α} (h : scan.Reads text a rest)
    (hrest : rest ≠ []) : scan.all? (text ++ rest) = none := by
  unfold Reads at h
  rw [all?, h]
  cases rest with
  | nil => exact absurd rfl hrest
  | cons c rest => rfl

theorem Refuses.all?_eq_none {scan : Scan α} {text : List Char} (h : scan.Refuses text) :
    scan.all? text = none := by
  unfold Refuses at h
  rw [all?, h]

theorem reads_pure (a : α) (rest : List Char) : (pure a : Scan α).Reads [] a rest := rfl

/-- What the first scanner leaves is read by the second. -/
theorem Reads.seq {scan : Scan α} {next : α → Scan β} {text more rest : List Char} {a : α} {b : β}
    (h : scan.Reads text a (more ++ rest)) (hnext : (next a).Reads more b rest) :
    (scan >>= next).Reads (text ++ more) b rest := by
  unfold Reads at h hnext ⊢
  rw [List.append_assoc, StateT.run_bind, h]
  exact hnext

/-- A scanner and what takes nothing after it. -/
theorem Reads.before {scan : Scan α} {next : α → Scan β} {text rest : List Char} {a : α} {b : β}
    (h : scan.Reads text a rest) (hnext : (next a).Reads [] b rest) :
    (scan >>= next).Reads text b rest := by
  have hseq := Reads.seq h hnext
  rwa [List.append_nil] at hseq

/-- A value can be made of what a scanner yields. -/
theorem Reads.map {scan : Scan α} {text rest : List Char} {a : α} (h : scan.Reads text a rest)
    (f : α → β) : (do return f (← scan) : Scan β).Reads text (f a) rest :=
  h.before (reads_pure (f a) rest)

theorem Reads.discard {scan : Scan α} {text rest : List Char} {a : α} (h : scan.Reads text a rest) :
    (discard scan).Reads text () rest :=
  h.map fun _ => ()

/-- A scanner that takes nothing, and what follows it. -/
theorem Reads.after {scan : Scan α} {next : α → Scan β} {text rest : List Char} {a : α} {b : β}
    (h : scan.Reads [] a (text ++ rest)) (hnext : (next a).Reads text b rest) :
    (scan >>= next).Reads text b rest :=
  h.seq hnext

/-- Nothing follows what is refused. -/
theorem Refuses.bind {scan : Scan α} {text : List Char} (h : scan.Refuses text)
    (next : α → Scan β) : (scan >>= next).Refuses text := by
  unfold Refuses at h ⊢
  rw [StateT.run_bind, h]
  rfl

/-- A text is refused if what the first scanner leaves is refused by the second. -/
theorem Reads.refuses {scan : Scan α} {next : α → Scan β} {text rest : List Char} {a : α}
    (h : scan.Reads text a rest) (hnext : (next a).Refuses rest) :
    (scan >>= next).Refuses (text ++ rest) := by
  unfold Reads at h
  unfold Refuses at hnext ⊢
  rw [StateT.run_bind, h]
  exact hnext

/-- A value that is checked, where the check holds. -/
theorem reads_checked {p : Prop} [Decidable p] (h : p) (a : α) (rest : List Char) :
    (if p then pure a else failure : Scan α).Reads [] a rest := by
  rw [if_pos h]
  exact reads_pure a rest

/-! ### Single characters -/

theorem reads_char (c : Char) (rest : List Char) : (char c).Reads [c] () rest := by
  simp [Reads, char, StateT.run]

theorem refuses_char {c : Char} {text : List Char} (h : text.head? ≠ some c) :
    (char c).Refuses text := by
  cases text with
  | nil => rfl
  | cons d text =>
      have hd : d ≠ c := by
        intro hd
        exact h (by rw [hd]; rfl)
      exact if_neg hd

theorem reads_oneOf {allowed : List Char} {c : Char} (h : c ∈ allowed) (rest : List Char) :
    (oneOf allowed).Reads [c] c rest := by
  simp [Reads, oneOf, StateT.run, h]

theorem reads_found (c : Char) (rest : List Char) : (found c).Reads [c] true rest := by
  simp [Reads, found, foundOneOf, StateT.run]

/-- A character that does not come next is not found, and nothing is taken. -/
theorem reads_notFound {c : Char} {rest : List Char} (h : rest.head? ≠ some c) :
    (found c).Reads [] false rest := by
  cases rest with
  | nil => rfl
  | cons d rest =>
      have hd : d ≠ c := by
        intro hd
        exact h (by rw [hd]; rfl)
      simp [Reads, found, foundOneOf, StateT.run, hd]

/-! ### Words and alternatives -/

theorem reads_word (w rest : List Char) : (word w).Reads w () rest := by
  simp [Reads, word, StateT.run]

/-- A text that begins otherwise than the word is refused. -/
theorem refuses_word {w text : List Char} (h : ¬ w <+: text) (htext : ¬ text <+: w)
    (rest : List Char) : (word w).Refuses (text ++ rest) := by
  have hnot : ¬ w <+: text ++ rest := by
    intro hprefix
    rcases List.prefix_or_prefix_of_prefix hprefix (List.prefix_append text rest) with hw | htext'
    · exact h hw
    · exact htext htext'
  rw [← List.isPrefixOf_iff_prefix, Bool.not_eq_true] at hnot
  simp [Refuses, word, StateT.run, hnot]

/-- What a scanner reads is read whatever else could be tried. -/
theorem Reads.orElse {scan : Scan α} {text rest : List Char} {a : α} (h : scan.Reads text a rest)
    (other : Scan α) : (scan <|> other).Reads text a rest := by
  unfold Reads at h ⊢
  change (scan.run (text ++ rest)).orElse _ = _
  rw [h]
  rfl

/-- What a scanner refuses is left to the other one. -/
theorem Refuses.orElse {scan other : Scan α} {text rest : List Char} {a : α}
    (h : scan.Refuses (text ++ rest)) (hother : other.Reads text a rest) :
    (scan <|> other).Reads text a rest := by
  unfold Reads at hother ⊢
  unfold Refuses at h
  change (scan.run (text ++ rest)).orElse _ = _
  rw [h]
  exact hother

/-- Where the scanner refuses what comes next, nothing is taken any more. -/
theorem reads_many_nil {scan : Scan α} {rest : List Char} (h : scan.Refuses rest) :
    Scan.Reads (many scan) [] [] rest := by
  unfold Refuses StateT.run at h
  rw [Reads, StateT.run, List.nil_append, many, h]

theorem reads_many_cons {scan : Scan α} {text more rest : List Char} {a : α} {as : List α}
    (hne : text ≠ []) (h : scan.Reads text a (more ++ rest))
    (hmore : Scan.Reads (many scan) more as rest) :
    Scan.Reads (many scan) (text ++ more) (a :: as) rest := by
  unfold Reads StateT.run at h hmore ⊢
  have hshorter : (more ++ rest).length < (text ++ (more ++ rest)).length := by
    have hlength : (text ++ (more ++ rest)).length = text.length + (more ++ rest).length :=
      List.length_append
    have hpos := List.length_pos_iff.mpr hne
    omega
  rw [List.append_assoc, many, h]
  dsimp only
  rw [if_pos hshorter, hmore]
  rfl

theorem intercalate_map_cons (mark : List Char) (write : α → List Char) (a : α) (as : List α) :
    mark.intercalate ((a :: as).map write) = write a ++ as.flatMap fun b => mark ++ write b := by
  induction as generalizing a with
  | nil => simp [List.intercalate]
  | cons b as ih =>
      have hnext := ih b
      simp only [List.map_cons, List.intercalate, List.intersperse_cons_cons, List.flatten_cons,
        List.flatMap_cons] at hnext ⊢
      rw [hnext, List.append_assoc]

section items

variable {scan : Scan α} {separator : Scan Unit} {mark : List Char} {write : α → List Char}
  {rest : List Char}

/-- Items behind the first one, each with its mark in front. -/
theorem reads_marked (hne : mark ≠ []) (hmark : ∀ more, separator.Reads mark () more)
    (hrest : separator.Refuses rest) (as : List α)
    (h : ∀ a ∈ as, ∀ more, (more = rest ∨ ∃ tail, more = mark ++ tail) →
      scan.Reads (write a) a more) :
    Scan.Reads (many (do separator; scan)) (as.flatMap fun a => mark ++ write a) as rest ∧
      ((as.flatMap fun a => mark ++ write a) ++ rest = rest ∨
        ∃ tail, (as.flatMap fun a => mark ++ write a) ++ rest = mark ++ tail) := by
  induction as with
  | nil => exact ⟨reads_many_nil (hrest.bind _), .inl rfl⟩
  | cons a as ih =>
      obtain ⟨hread, hbehind⟩ := ih fun b hb => h b (List.mem_cons_of_mem a hb)
      have hitem : Reads (do separator; scan) (mark ++ write a) a
          ((as.flatMap fun b => mark ++ write b) ++ rest) :=
        (hmark _).seq (h a List.mem_cons_self _ hbehind)
      refine ⟨reads_many_cons (List.append_ne_nil_of_left_ne_nil hne _) hitem hread, .inr ?_⟩
      exact ⟨write a ++ ((as.flatMap fun b => mark ++ write b) ++ rest), by simp⟩

/-- Items with a mark between them are read up to where no mark follows. -/
theorem reads_separated (hne : mark ≠ []) (hmark : ∀ more, separator.Reads mark () more)
    (hrest : separator.Refuses rest) (a : α) (as : List α)
    (h : ∀ b ∈ a :: as, ∀ more, (more = rest ∨ ∃ tail, more = mark ++ tail) →
      scan.Reads (write b) b more) :
    (Scan.separated scan separator).Reads (mark.intercalate ((a :: as).map write)) (a :: as)
      rest := by
  obtain ⟨hread, hbehind⟩ :=
    reads_marked hne hmark hrest as fun b hb => h b (List.mem_cons_of_mem a hb)
  rw [intercalate_map_cons]
  exact (h a List.mem_cons_self _ hbehind).seq (Reads.map hread _)

end items

/-- White space is passed over. -/
theorem reads_spaces {spaces rest : List Char} (h : ∀ c ∈ spaces, isSpace c)
    (hrest : Stops isSpace rest) : skipSpaces.Reads spaces () rest := by
  have hdrop : (spaces ++ rest).dropWhile isSpace = rest := dropWhile_append h hrest
  change some ((), (spaces ++ rest).dropWhile isSpace) = some ((), rest)
  rw [hdrop]

theorem reads_skipSpaces {rest : List Char} (h : Stops isSpace rest) :
    skipSpaces.Reads [] () rest :=
  reads_spaces (by simp) h

/-! ### Digits -/

theorem reads_digits {ds rest : List Char} (h : ∀ c ∈ ds, c.isDigit) (hne : ds ≠ [])
    (hrest : Stops Char.isDigit rest) : digits.Reads ds ds rest := by
  have htake := takeWhile_append h hrest
  have hdrop := dropWhile_append h hrest
  have hspan : (span Char.isDigit).run (ds ++ rest) = some (ds, rest) := by
    change some (_, _) = _
    rw [htake, hdrop]
  rw [Reads, digits, StateT.run_bind, hspan]
  simp only [Option.bind_eq_bind, Option.bind_some]
  rw [if_neg (by simpa using hne)]
  rfl

theorem reads_digitsUpTo {least most : Nat} {ds rest : List Char} (h : ∀ c ∈ ds, c.isDigit)
    (hleast : least ≤ ds.length) (hmost : ds.length = most) :
    (digitsUpTo least most).Reads ds ds rest := by
  have htake : ((ds ++ rest).take most).takeWhile Char.isDigit = ds := by
    rw [← hmost, List.take_left]
    exact List.takeWhile_eq_self_iff.mpr h
  change (if least ≤ (((ds ++ rest).take most).takeWhile Char.isDigit).length then
    some (((ds ++ rest).take most).takeWhile Char.isDigit,
      (ds ++ rest).drop (((ds ++ rest).take most).takeWhile Char.isDigit).length) else none) = _
  rw [htake, if_pos hleast, List.drop_left]

/-- A text that does not begin with a digit has no field of digits. -/
theorem refuses_digitsUpTo {least : Nat} (h : 0 < least) (most : Nat) {text : List Char}
    (htext : Stops Char.isDigit text) : (digitsUpTo least most).Refuses text := by
  have htake : (text.take most).takeWhile Char.isDigit = [] := by
    cases text with
    | nil => simp
    | cons c text => cases most with
      | zero => rfl
      | succ most => simp [htext c rfl]
  change (if least ≤ ((text.take most).takeWhile Char.isDigit).length then
    some ((text.take most).takeWhile Char.isDigit,
      text.drop ((text.take most).takeWhile Char.isDigit).length) else none) = none
  rw [htake]
  exact if_neg (Nat.not_le.mpr h)

end Scan

/-! ### Decimal digits -/

theorem bounds_of_isDigit {c : Char} (h : c.isDigit) : 48 ≤ c.toNat ∧ c.toNat ≤ 57 := by
  simpa [Char.isDigit, Char.le_def, UInt32.le_iff_toNat_le] using h

theorem digitsValue_toDigits (n : Nat) : digitsValue (Nat.toDigits 10 n) = n :=
  Nat.ofDigitChars_ten_toDigits

/-- Digits make a number larger. -/
theorem le_ofDigitChars (ds : List Char) (n : Nat) : n ≤ Nat.ofDigitChars 10 ds n := by
  induction ds generalizing n with
  | nil => exact Nat.le_refl n
  | cons c ds ih =>
      rw [Nat.ofDigitChars_cons]
      have hrest := ih (10 * n + (c.toNat - '0'.toNat))
      omega

/-- Digits make a number smaller than a one with as many zeros. -/
theorem digitsValue_lt {ds : List Char} (h : ∀ c ∈ ds, c.isDigit) :
    digitsValue ds < 10 ^ ds.length := by
  have hbound (n : Nat) : Nat.ofDigitChars 10 ds n < (n + 1) * 10 ^ ds.length := by
    induction ds generalizing n with
    | nil => simp
    | cons c ds ih =>
        obtain ⟨hc, hds⟩ := List.forall_mem_cons.mp h
        have hdigit : c.toNat - '0'.toNat < 10 := by
          have hbounds := bounds_of_isDigit hc
          have hzero : '0'.toNat = 48 := rfl
          omega
        calc Nat.ofDigitChars 10 (c :: ds) n
            = Nat.ofDigitChars 10 ds (10 * n + (c.toNat - '0'.toNat)) := Nat.ofDigitChars_cons
          _ < (10 * n + (c.toNat - '0'.toNat) + 1) * 10 ^ ds.length := ih hds _
          _ ≤ (n + 1) * 10 * 10 ^ ds.length := Nat.mul_le_mul_right _ (by omega)
          _ = (n + 1) * 10 ^ (c :: ds).length := by
            rw [List.length_cons, Nat.pow_succ', Nat.mul_assoc]
  simpa [digitsValue] using hbound 0

theorem isDigit_of_mem_toDigits {n : Nat} {c : Char} (h : c ∈ Nat.toDigits 10 n) : c.isDigit :=
  Nat.isDigit_of_mem_toDigits (by decide) (by decide) h

theorem digitsValue_paddedDigits (width n : Nat) : digitsValue (paddedDigits width n) = n := by
  rw [digitsValue, paddedDigits, Nat.ofDigitChars_append, Nat.ofDigitChars_replicate_zero,
    Nat.mul_zero]
  exact digitsValue_toDigits n

theorem isDigit_of_mem_paddedDigits {width n : Nat} {c : Char} (h : c ∈ paddedDigits width n) :
    c.isDigit := by
  rcases List.mem_append.mp h with hzero | hdigit
  · rw [List.eq_of_mem_replicate hzero]
    rfl
  · exact isDigit_of_mem_toDigits hdigit

/-- A number that is not zero has no zero at the front. -/
theorem head?_toDigits_ne {n : Nat} (h : 0 < n) : (Nat.toDigits 10 n).head? ≠ some '0' := by
  induction n using Nat.strongRecOn with
  | ind n ih =>
      by_cases hsmall : n < 10
      · have hall : ∀ n < 10, 0 < n → Nat.digitChar n ≠ '0' := by decide
        rw [Nat.toDigits_of_lt_base hsmall, List.head?_cons]
        intro hhead
        exact hall n hsmall h (Option.some.inj hhead)
      · have hdigits := Nat.toDigits_of_base_le (by decide : 1 < 10) (Nat.not_lt.mp hsmall)
        have hfirst := List.head?_eq_some_head (Nat.toDigits_ne_nil (b := 10) (n := n / 10))
        rw [hdigits, List.head?_append, hfirst, Option.some_or, ← hfirst]
        exact ih (n / 10) (by omega) (by omega)

theorem length_paddedDigits {width n : Nat} (hwidth : 0 < width) (h : n < 10 ^ width) :
    (paddedDigits width n).length = width := by
  have hdigits := (Nat.length_toDigits_le_iff (by decide : 1 < 10) hwidth).mpr h
  rw [paddedDigits, List.length_append, List.length_replicate]
  omega

theorem paddedDigits_ne_nil (width n : Nat) : paddedDigits width n ≠ [] := by
  rw [paddedDigits]
  exact List.append_ne_nil_of_right_ne_nil _ Nat.toDigits_ne_nil

/-! ### What digits are not -/

theorem isSpace_of_isDigit {c : Char} (h : c.isDigit) : isSpace c = false := by
  have hbounds := bounds_of_isDigit h
  simp only [isSpace, Bool.or_eq_false_iff, Bool.and_eq_false_iff, decide_eq_false_iff_not]
  omega

/-- Nothing is taken off the ends of a text without white space. -/
theorem trim_eq_self {cs : List Char} (h : ∀ c ∈ cs, isSpace c = false) : trim cs = cs := by
  have hreverse : ∀ c ∈ cs.reverse, isSpace c = false := by simpa using h
  rw [trim, Scan.dropWhile_eq_self h, Scan.dropWhile_eq_self hreverse, List.reverse_reverse]

/-- White space is taken off both ends of a text without white space. -/
theorem trim_between {before kept after : List Char} (hbefore : ∀ c ∈ before, isSpace c)
    (hkept : ∀ c ∈ kept, isSpace c = false) (hne : kept ≠ []) (hafter : ∀ c ∈ after, isSpace c) :
    trim (before ++ kept ++ after) = kept := by
  have hstops {cs : List Char} (hcs : ∀ c ∈ cs, isSpace c = false) (hcsne : cs ≠ [])
      (rest : List Char) : Scan.Stops isSpace (cs ++ rest) := by
    cases cs with
    | nil => exact absurd rfl hcsne
    | cons c cs => exact Scan.stops_cons (hcs c List.mem_cons_self) _
  have hfront : (before ++ kept ++ after).dropWhile isSpace = kept ++ after := by
    rw [List.append_assoc]
    exact Scan.dropWhile_append hbefore (hstops hkept hne after)
  have hback : (kept ++ after).reverse.dropWhile isSpace = kept.reverse := by
    have hreverse : Scan.Stops isSpace (kept.reverse ++ []) :=
      hstops (by simpa using hkept) (by simpa using hne) []
    rw [List.append_nil] at hreverse
    rw [List.reverse_append]
    exact Scan.dropWhile_append (by simpa using hafter) hreverse
  rw [trim, hfront, hback, List.reverse_reverse]

/-- What is taken off the ends of a text is white space. -/
theorem exists_eq_trim (cs : List Char) : ∃ before after, cs = before ++ trim cs ++ after ∧
    (∀ c ∈ before, isSpace c) ∧ ∀ c ∈ after, isSpace c := by
  have hback : (cs.dropWhile isSpace).reverse.takeWhile isSpace ++ (trim cs).reverse =
      (cs.dropWhile isSpace).reverse := by
    rw [trim, List.reverse_reverse]
    exact List.takeWhile_append_dropWhile
  refine ⟨cs.takeWhile isSpace, ((cs.dropWhile isSpace).reverse.takeWhile isSpace).reverse, ?_,
    fun _ => List.mem_takeWhile_imp, ?_⟩
  · have hdropped := congrArg List.reverse hback
    rw [List.reverse_append, List.reverse_reverse, List.reverse_reverse] at hdropped
    rw [List.append_assoc, hdropped, List.takeWhile_append_dropWhile]
  · intro c hc
    exact List.mem_takeWhile_imp (List.mem_reverse.mp hc)

/-- White space is taken off behind a character that is none, but not before it. -/
theorem exists_trim_cons {c : Char} (h : isSpace c = false) (cs : List Char) :
    ∃ kept, trim (c :: cs) = c :: kept := by
  have hfirst : (c :: cs).dropWhile isSpace = c :: cs := by
    rw [List.dropWhile_cons, h]
    rfl
  have hlast : (cs.reverse ++ [c]).dropWhile isSpace = cs.reverse.dropWhile isSpace ++ [c] := by
    rw [List.dropWhile_append]
    split
    case isTrue hnone => simp [List.isEmpty_iff.mp hnone, h]
    case isFalse => rfl
  refine ⟨(cs.reverse.dropWhile isSpace).reverse, ?_⟩
  rw [trim, hfirst, List.reverse_cons, hlast, List.reverse_append]
  rfl

/-- Digits at the front stop a scanner of characters that are no digits. -/
theorem Scan.stops_digits {kind : Char → Bool} (hkind : ∀ c : Char, c.isDigit → kind c = false)
    {ds : List Char} (h : ∀ c ∈ ds, c.isDigit) (hne : ds ≠ []) (rest : List Char) :
    Scan.Stops kind (ds ++ rest) := by
  cases ds with
  | nil => exact absurd rfl hne
  | cons c ds => exact Scan.stops_cons (hkind c (h c List.mem_cons_self)) _

/-- Digits at the front are no sign or point. -/
theorem Scan.head?_digits_ne {d : Char} (hd : d.isDigit = false) {ds : List Char}
    (h : ∀ c ∈ ds, c.isDigit) (hne : ds ≠ []) (rest : List Char) :
    (ds ++ rest).head? ≠ some d := by
  cases ds with
  | nil => exact absurd rfl hne
  | cons c ds =>
      intro hhead
      obtain rfl := Option.some.inj hhead
      rw [h c List.mem_cons_self] at hd
      cases hd

/-! ### Padded numbers -/

namespace Scan

variable {α : Type}

/-- A number that fills the width it is padded to is read from as many digits. -/
theorem reads_field (f : Nat → α) (least : Nat) {width n : Nat} (hleast : least ≤ width)
    (hwidth : 0 < width) (h : n < 10 ^ width) (rest : List Char) :
    (do return f (digitsValue (← digitsUpTo least width)) : Scan α).Reads (paddedDigits width n)
      (f n) rest := by
  have hlength : (paddedDigits width n).length = width := length_paddedDigits hwidth h
  have hdigits : (digitsUpTo least width).Reads (paddedDigits width n) (paddedDigits width n)
      rest :=
    reads_digitsUpTo (fun _ => isDigit_of_mem_paddedDigits) (hlength.symm ▸ hleast) hlength
  have hvalue := hdigits.map fun ds => f (digitsValue ds)
  rwa [digitsValue_paddedDigits] at hvalue

/-- A padded number is read from all digits that come next. -/
theorem reads_padded (f : Nat → α) (width n : Nat) {rest : List Char}
    (hrest : Stops Char.isDigit rest) :
    (do return f (digitsValue (← digits)) : Scan α).Reads (paddedDigits width n) (f n) rest := by
  have hdigits : digits.Reads (paddedDigits width n) (paddedDigits width n) rest :=
    reads_digits (fun _ => isDigit_of_mem_paddedDigits) (paddedDigits_ne_nil width n) hrest
  have hvalue := hdigits.map fun ds => f (digitsValue ds)
  rwa [digitsValue_paddedDigits] at hvalue

theorem stops_padded {kind : Char → Bool} (hkind : ∀ c : Char, c.isDigit → kind c = false)
    (width n : Nat) (rest : List Char) : Stops kind (paddedDigits width n ++ rest) :=
  stops_digits hkind (fun _ => isDigit_of_mem_paddedDigits) (paddedDigits_ne_nil width n) rest

theorem head?_padded_ne (d : Char) (hd : d.isDigit = false) (width n : Nat) (rest : List Char) :
    (paddedDigits width n ++ rest).head? ≠ some d :=
  head?_digits_ne hd (fun _ => isDigit_of_mem_paddedDigits) (paddedDigits_ne_nil width n) rest

end Scan

end PgCollections
