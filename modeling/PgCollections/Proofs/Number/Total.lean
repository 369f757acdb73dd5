import Mathlib.Algebra.Order.Ring.Nat
import Mathlib.Tactic.Ring
import PgCollections.Number.Numeric.Total

/-! # Exact sums of decimal groups

A total is a number of units of the last decimal that there is room for (`Total.Denotes`).  A sum is
exact if there is room for its value, even where there is none for all the decimals of its two
sides: the decimals that are rounded off are zeros then (`Total.fit?_eq_some`).  Groups that are
added one after the other denote the first groups of their number, and there is room for these
whenever there is room for the number (`Total.Fits.first`).  So the groups of a number within the
limits add up to the number (`Total.addGroups?_denotes`). -/

namespace PgCollections

/-! ### Exact quotients -/

theorem roundHalfEven_mul (a : Nat) {b : Nat} (hb : 0 < b) : roundHalfEven (a * b) b = a := by
  have hquotient : a * b / b = a := Nat.mul_div_cancel a hb
  have hrest : a * b % b = 0 := Nat.mul_mod_left a b
  simp only [roundHalfEven, hquotient, hrest]
  rw [if_neg]
  omega

theorem roundHalfUp_mul (a : Nat) {b : Nat} (hb : 0 < b) : roundHalfUp (a * b) b = a := by
  have hnum : 2 * (a * b) + b = (2 * a + 1) * b := by ring
  rw [roundHalfUp, hnum, Nat.mul_div_mul_right _ _ hb]
  omega

namespace Numeric

/-- The number that groups stand for. -/
def value : List Nat → Nat
  | [] => 0
  | group :: groups => group * 10000 ^ groups.length + value groups

theorem value_append (groups more : List Nat) :
    value (groups ++ more) = value groups * 10000 ^ more.length + value more := by
  induction groups with
  | nil => simp [value]
  | cons group groups ih =>
      rw [List.cons_append, value, value, ih, List.length_append]
      ring

theorem value_lt {groups : List Nat} (h : ∀ group ∈ groups, group < 10000) :
    value groups < 10000 ^ groups.length := by
  induction groups with
  | nil => simp [value]
  | cons group groups ih =>
      have hgroup : group + 1 ≤ 10000 := h group List.mem_cons_self
      have hrest := ih fun group hgroup => h group (List.mem_cons_of_mem _ hgroup)
      calc value (group :: groups) = group * 10000 ^ groups.length + value groups := rfl
        _ < (group + 1) * 10000 ^ groups.length := by rw [Nat.add_mul]; omega
        _ ≤ 10000 * 10000 ^ groups.length := Nat.mul_le_mul_right _ hgroup
        _ = 10000 ^ (group :: groups).length := by rw [List.length_cons, Nat.pow_succ']

/-- Groups behind a place do not reach it. -/
theorem value_mul_lt {groups : List Nat} (h : ∀ group ∈ groups, group < 10000) {place : Nat}
    (hplace : groups.length ≤ place) :
    value groups * 10000 ^ (place - groups.length) < 10000 ^ place := by
  have hpos : 0 < 10000 ^ (place - groups.length) := Nat.pow_pos (by decide)
  have hlt := (Nat.mul_lt_mul_right hpos).mpr (value_lt h)
  rwa [← Nat.pow_add, Nat.add_sub_cancel' hplace] at hlt

namespace Total

/-- There is room for a number of units of the last decimal. -/
def Fits (units : Nat) : Prop :=
  ∃ coefficient ≤ maxCoefficient, ∃ scale ≤ maxScale,
    coefficient * 10 ^ (maxScale - scale) = units

/-- The total is within the limits and is a number of units of the last decimal. -/
def Denotes (total : Total) (units : Nat) : Prop :=
  ∃ coefficient ≤ maxCoefficient, total.coefficient = coefficient ∧ total.scale ≤ maxScale ∧
    coefficient * 10 ^ (maxScale - total.scale) = units

/-! ### Sums -/

/-- A number of decimals for which there may be no room ends in as many zeros as have to go. -/
theorem exists_zeros_of_fits {n scale : Nat} (hscale : scale ≤ maxScale)
    (h : Fits (n * 10 ^ (maxScale - scale))) :
    ∃ m ≤ maxCoefficient, ∃ zeros ≤ scale, n = m * 10 ^ zeros := by
  obtain ⟨c, hc, s, hs, hunits⟩ := h
  by_cases hfewer : s ≤ scale
  · have hpower : maxScale - s = scale - s + (maxScale - scale) := by omega
    rw [hpower, Nat.pow_add, ← Nat.mul_assoc] at hunits
    have hn := Nat.eq_of_mul_eq_mul_right (Nat.pow_pos (by decide)) hunits
    exact ⟨c, hc, scale - s, Nat.sub_le scale s, hn.symm⟩
  · have hpower : maxScale - scale = s - scale + (maxScale - s) := by omega
    rw [hpower, Nat.pow_add, ← Nat.mul_assoc] at hunits
    have hc' := Nat.eq_of_mul_eq_mul_right (Nat.pow_pos (by decide)) hunits
    have hle : n ≤ c := hc' ▸ Nat.le_mul_of_pos_right n (Nat.pow_pos (by decide))
    exact ⟨n, hle.trans hc, 0, Nat.zero_le scale, (Nat.mul_one n).symm⟩

/-- Decimals are rounded off only if they are zeros. -/
theorem fit?_eq_some {n scale : Nat} (hscale : scale ≤ maxScale)
    (h : Fits (n * 10 ^ (maxScale - scale))) :
    ∃ kept ≤ maxCoefficient, ∃ left ≤ maxScale, fit? n scale = some (kept, left) ∧
      kept * 10 ^ (maxScale - left) = n * 10 ^ (maxScale - scale) := by
  obtain ⟨m, hm, zeros, hzeros, hn⟩ := exists_zeros_of_fits hscale h
  have hroom : n / 10 ^ zeros ≤ maxCoefficient := by
    rwa [hn, Nat.mul_div_cancel m (Nat.pow_pos (by decide))]
  cases hcount : (List.range (scale + 1)).find? fun count =>
      n / Nat.pow 10 count ≤ maxCoefficient with
  | none =>
      have hfull := List.find?_eq_none.mp hcount zeros (by simpa using by omega)
      simp [hroom] at hfull
  | some count =>
      obtain ⟨hkept, hmem, hleast⟩ := List.find?_range_eq_some.mp hcount
      have hkept : n / 10 ^ count ≤ maxCoefficient := by simpa using hkept
      have hle : count ≤ zeros := by
        by_contra hlt
        have hearlier := hleast zeros (by omega)
        simp [hroom] at hearlier
      -- The decimals that go are among the zeros.
      obtain ⟨kept, hdrop⟩ : ∃ kept, n = kept * 10 ^ count := by
        refine ⟨m * 10 ^ (zeros - count), ?_⟩
        rw [Nat.mul_assoc, ← Nat.pow_add, Nat.sub_add_cancel hle]
        exact hn
      have hpos : 0 < 10 ^ count := Nat.pow_pos (by decide)
      rw [hdrop, Nat.mul_div_cancel kept hpos] at hkept
      refine ⟨kept, hkept, scale - count, by omega, ?_, ?_⟩
      · rw [fit?, hcount, Option.bind_eq_bind, Option.bind_some, drop?, Nat.pow_eq, hdrop,
          roundHalfEven_mul kept hpos]
        exact if_pos hkept
      · have hpower : maxScale - (scale - count) = count + (maxScale - scale) := by omega
        rw [hpower, Nat.pow_add, ← Nat.mul_assoc, ← hdrop]

/-- A sum is exact if there is room for it. -/
theorem add?_denotes {a b : Total} {u v : Nat} (ha : a.Denotes u) (hb : b.Denotes v)
    (h : Fits (u + v)) : ∃ t, a.add? b = some t ∧ t.Denotes (u + v) := by
  obtain ⟨ca, hca, haEq, hsa, rfl⟩ := id ha
  obtain ⟨cb, hcb, hbEq, hsb, rfl⟩ := id hb
  unfold add?
  by_cases hzero : a.coefficient = 0
  · have hnone : ca = 0 := by omega
    rw [if_pos hzero, hnone, Nat.zero_mul, Nat.zero_add]
    exact ⟨b, rfl, hb⟩
  by_cases hzero' : b.coefficient = 0
  · have hnone : cb = 0 := by omega
    rw [if_neg hzero, if_pos hzero', hnone, Nat.zero_mul, Nat.add_zero]
    exact ⟨a, rfl, ha⟩
  rw [if_neg hzero, if_neg hzero']
  -- Both sides are brought to the larger number of decimals.
  generalize hscale : max a.scale b.scale = scale
  have hle : scale ≤ maxScale := by omega
  have hcommon {s : Nat} (hs : s ≤ scale) (c : Nat) :
      c * 10 ^ (scale - s) * 10 ^ (maxScale - scale) = c * 10 ^ (maxScale - s) := by
    have hpower : maxScale - s = scale - s + (maxScale - scale) := by omega
    rw [hpower, Nat.pow_add, Nat.mul_assoc]
  generalize hn : ca * 10 ^ (scale - a.scale) + cb * 10 ^ (scale - b.scale) = n
  have hunits : n * 10 ^ (maxScale - scale) =
      ca * 10 ^ (maxScale - a.scale) + cb * 10 ^ (maxScale - b.scale) := by
    rw [← hn, Nat.add_mul, hcommon (by omega), hcommon (by omega)]
  have hsum : a.coefficient * (Nat.pow 10 (scale - a.scale) : Nat) +
      b.coefficient * (Nat.pow 10 (scale - b.scale) : Nat) = n := by
    rw [haEq, hbEq, ← hn]
    push_cast
    rfl
  have hpos : 0 < n := by
    rw [← hn]
    have hca' : 0 < ca * 10 ^ (scale - a.scale) := Nat.mul_pos (by omega) (Nat.pow_pos (by decide))
    omega
  rw [← hunits] at h ⊢
  obtain ⟨kept, hkept, left, hleft, hfit, hexact⟩ := fit?_eq_some hle h
  refine ⟨⟨kept, left⟩, ?_, kept, hkept, rfl, hleft, hexact⟩
  dsimp only
  rw [hsum, Int.natAbs_natCast, hfit]
  have hsign : (n : Int).sign = 1 := Int.sign_eq_one_of_pos (by omega)
  simp [hsign]

/-! ### Groups -/

/-- Units of the decimals behind the fourteenth group are units of whole numbers times this. -/
theorem ten_pow_maxScale : 10 ^ maxScale = 10000 ^ 7 := by decide

/-- A group in front of the point. -/
theorem ofGroup?_whole {group whole : Nat} (hwhole : whole ≤ 7)
    (h : group * 10000 ^ whole ≤ maxCoefficient) :
    ofGroup? group whole = some ⟨(group * 10000 ^ whole : Nat), 0⟩ := by
  have hweight : ¬ ((whole : Int) < -7 ∨ 7 < (whole : Int)) := by omega
  have hdecimals : 4 * (-(whole : Int)).toNat = 0 := by omega
  have hcoefficient : (group : Int) * (Nat.pow 10000 whole : Nat) =
      ((group * 10000 ^ whole : Nat) : Int) := by
    push_cast
    rfl
  rw [ofGroup?, if_neg hweight, Int.toNat_natCast, hdecimals, hcoefficient]
  exact if_pos h

/-- A group behind the point. -/
theorem ofGroup?_decimals {group count : Nat} (hcount : count ≤ 7) (h : group ≤ maxCoefficient) :
    ofGroup? group (-count) = some ⟨group, 4 * count⟩ := by
  have hweight : ¬ (-(count : Int) < -7 ∨ 7 < -(count : Int)) := by omega
  have hnat : (-(count : Int)).toNat = 0 := by omega
  have hcoefficient : (group : Int) * (Nat.pow 10000 0 : Nat) = group := Int.mul_one _
  rw [ofGroup?, if_neg hweight, hnat, hcoefficient, Int.neg_neg, Int.toNat_natCast]
  exact if_pos h

/-- The group at a place, counted from the last one that there is room for. -/
theorem ofGroup?_denotes {group place : Nat} (hgroup : group < 10000) (hplace : place ≤ 14)
    (h : group * 10000 ^ place ≤ maxCoefficient * 10 ^ maxScale) :
    ∃ t, ofGroup? group ((place : Int) - 7) = some t ∧ t.Denotes (group * 10000 ^ place) := by
  by_cases hwhole : 7 ≤ place
  · obtain ⟨whole, rfl⟩ := Nat.exists_eq_add_of_le hwhole
    have hweight : ((7 + whole : Nat) : Int) - 7 = whole := by omega
    have hunits : group * 10000 ^ (7 + whole) = group * 10000 ^ whole * 10 ^ maxScale := by
      rw [ten_pow_maxScale, Nat.pow_add]
      ring
    rw [hunits] at h ⊢
    have hroom := Nat.le_of_mul_le_mul_right h (Nat.pow_pos (by decide))
    rw [hweight, ofGroup?_whole (by omega) hroom]
    exact ⟨_, rfl, _, hroom, rfl, Nat.zero_le _, rfl⟩
  · obtain ⟨count, hcount⟩ := Nat.exists_eq_add_of_le (Nat.le_of_not_le hwhole)
    have hweight : (place : Int) - 7 = -count := by omega
    have hmax : 10000 ≤ maxCoefficient := by decide
    have hroom : group ≤ maxCoefficient := by omega
    have hscale : maxScale - 4 * count = 4 * place := by
      have hmax : maxScale = 28 := rfl
      omega
    rw [hweight, ofGroup?_decimals (by omega) hroom]
    refine ⟨_, rfl, group, hroom, rfl, ?_, ?_⟩
    · exact Nat.mul_le_mul_left 4 (by omega : count ≤ 7)
    · rw [hscale, Nat.pow_mul]

theorem Fits.le {units : Nat} (h : Fits units) : units ≤ maxCoefficient * 10 ^ maxScale := by
  obtain ⟨c, hc, s, -, rfl⟩ := h
  exact Nat.mul_le_mul hc (Nat.pow_le_pow_right (by decide) (Nat.sub_le maxScale s))

/-- If there is room for a number, there is room for its first digits, with zeros behind them. -/
theorem Fits.first {units : Nat} (h : Fits units) (k : Nat) : Fits (units / 10 ^ k * 10 ^ k) := by
  obtain ⟨c, hc, s, hs, rfl⟩ := h
  have hpos (n : Nat) : 0 < 10 ^ n := Nat.pow_pos (by decide)
  by_cases hfew : k ≤ maxScale - s
  · -- The digits that are left out are zeros.
    have hpower : maxScale - s = maxScale - s - k + k := by omega
    rw [hpower, Nat.pow_add, ← Nat.mul_assoc, Nat.mul_div_cancel _ (hpos k), Nat.mul_assoc,
      ← Nat.pow_add, ← hpower]
    exact ⟨c, hc, s, hs, rfl⟩
  · have hpower : k = k - (maxScale - s) + (maxScale - s) := by omega
    generalize k - (maxScale - s) = digits at hpower
    have hquotient : c * 10 ^ (maxScale - s) / 10 ^ k = c / 10 ^ digits := by
      rw [hpower, Nat.pow_add, Nat.mul_div_mul_right _ _ (hpos _)]
    have hle : c / 10 ^ digits * 10 ^ digits ≤ c := Nat.div_mul_le_self c _
    rw [hquotient]
    by_cases hdecimals : k ≤ maxScale
    · refine ⟨c / 10 ^ digits, (Nat.div_le_self c _).trans hc, maxScale - k, Nat.sub_le _ _, ?_⟩
      rw [Nat.sub_sub_self hdecimals]
    · have hzeros : k = k - maxScale + maxScale := by omega
      have hfewer : k - maxScale ≤ digits := by omega
      have hpower : 10 ^ (k - maxScale) ≤ 10 ^ digits := Nat.pow_le_pow_right (by decide) hfewer
      have hroom := (Nat.mul_le_mul_left (c / 10 ^ digits) hpower).trans (hle.trans hc)
      refine ⟨c / 10 ^ digits * 10 ^ (k - maxScale), hroom, 0, Nat.zero_le _, ?_⟩
      rw [Nat.sub_zero, Nat.mul_assoc, ← Nat.pow_add, ← hzeros]

/-- What stands behind a place can be left out. -/
theorem Fits.before {place before behind : Nat} (hbehind : behind < 10000 ^ place)
    (h : Fits (10000 ^ place * before + behind)) : Fits (10000 ^ place * before) := by
  have hpower : 10 ^ (4 * place) = 10000 ^ place := Nat.pow_mul 10 4 place
  have hfits := h.first (4 * place)
  rw [hpower, Nat.mul_add_div (Nat.pow_pos (by decide)), Nat.div_eq_of_lt hbehind, Nat.add_zero,
    Nat.mul_comm] at hfits
  exact hfits

/-- Groups are added to a total exactly if there is room for the sum.  `place` is the number of
places behind the total. -/
theorem addGroups?_denotes {groups : List Nat} (hgroups : ∀ group ∈ groups, group < 10000)
    {place : Nat} (hlength : groups.length ≤ place) (hplace : place ≤ 15) {total : Total}
    {units : Nat} (htotal : total.Denotes units) (hunits : 10000 ^ place ∣ units)
    (h : Fits (units + value groups * 10000 ^ (place - groups.length))) :
    ∃ t, total.addGroups? ((place : Int) - 8) (groups.map Int.ofNat) = some t ∧
      t.Denotes (units + value groups * 10000 ^ (place - groups.length)) := by
  induction groups generalizing place total units with
  | nil =>
      refine ⟨total, rfl, ?_⟩
      simpa [value] using htotal
  | cons group groups ih =>
      rw [List.length_cons] at hlength
      obtain ⟨place, rfl⟩ : ∃ p, place = p + 1 := ⟨place - 1, by omega⟩
      rw [Nat.add_le_add_iff_right] at hlength
      have hsplit : value (group :: groups) * 10000 ^ (place + 1 - (group :: groups).length) =
          group * 10000 ^ place + value groups * 10000 ^ (place - groups.length) := by
        have hplaces : place + 1 - (group :: groups).length = place - groups.length := by
          rw [List.length_cons]
          omega
        rw [hplaces, value, Nat.add_mul, Nat.mul_assoc, ← Nat.pow_add, Nat.add_sub_cancel' hlength]
      rw [hsplit, ← Nat.add_assoc] at h ⊢
      have hrest : ∀ group ∈ groups, group < 10000 :=
        fun group hgroup => hgroups group (List.mem_cons_of_mem _ hgroup)
      have hbehind := value_mul_lt hrest hlength
      have hshift : 10000 ^ place ∣ units :=
        (Nat.pow_dvd_pow 10000 (Nat.le_succ place)).trans hunits
      obtain ⟨before, hbefore⟩ : 10000 ^ place ∣ units + group * 10000 ^ place :=
        Nat.dvd_add hshift (Nat.dvd_mul_left _ _)
      have hfirst : Fits (units + group * 10000 ^ place) := by
        rw [hbefore] at h ⊢
        exact h.before hbehind
      have hmax : group * 10000 ^ place ≤ maxCoefficient * 10 ^ maxScale :=
        (Nat.le_add_left _ units).trans hfirst.le
      have hgroup := hgroups group List.mem_cons_self
      obtain ⟨own, hown, hdenotes⟩ := ofGroup?_denotes hgroup (by omega) hmax
      obtain ⟨next, hnext, hnextDenotes⟩ := add?_denotes htotal hdenotes hfirst
      obtain ⟨t, ht, htDenotes⟩ := ih hrest hlength (by omega) hnextDenotes ⟨before, hbefore⟩ h
      refine ⟨t, ?_, htDenotes⟩
      have hweight : ((place + 1 : Nat) : Int) - 8 = (place : Int) - 7 := by omega
      have hweight' : (place : Int) - 7 - 1 = (place : Int) - 8 := by omega
      rw [List.map_cons, addGroups?, hweight, hweight']
      simp only [Int.ofNat_eq_natCast, hown, hnext, Option.bind_eq_bind, Option.bind_some]
      exact ht

end Total

/-! ### The number of decimals -/

/-- Decimals are added as long as there is room for them. -/
theorem extend_eq (x : Numeric) {count : Nat} (h : x.coefficient * 10 ^ count ≤ maxCoefficient) :
    x.extend count = ⟨x.negative, x.coefficient * 10 ^ count, x.scale + count⟩ := by
  induction count generalizing x with
  | zero => rw [extend, Nat.pow_zero, Nat.mul_one, Nat.add_zero]
  | succ count ih =>
      have hshift : x.coefficient * 10 ^ (count + 1) = x.coefficient * 10 * 10 ^ count := by ring
      rw [hshift] at h ⊢
      have hnext : x.coefficient * 10 ≤ maxCoefficient :=
        (Nat.le_mul_of_pos_right _ (Nat.pow_pos (by decide))).trans h
      rw [extend, if_pos hnext, ih _ h, Nat.add_assoc, Nat.add_comm 1 count]

/-- A number within the limits comes back when its own number of decimals is asked for. -/
theorem rescale_eq {x : Numeric} (hcoefficient : x.coefficient ≤ maxCoefficient)
    (hscale : x.scale ≤ maxScale) (hne : x.coefficient ≠ 0) {c s : Nat} (hs : s ≤ maxScale)
    (h : c * 10 ^ (maxScale - s) = x.coefficient * 10 ^ (maxScale - x.scale)) :
    (⟨x.negative, c, s⟩ : Numeric).rescale x.scale = x := by
  have hpos (n : Nat) : 0 < 10 ^ n := Nat.pow_pos (by decide)
  have hc : c ≠ 0 := by
    rintro rfl
    have hunits := Nat.mul_pos (Nat.pos_of_ne_zero hne) (hpos (maxScale - x.scale))
    omega
  rw [rescale, if_neg hc]
  by_cases hfewer : x.scale < s
  · -- Zeros are rounded off.
    have hpower : maxScale - x.scale = s - x.scale + (maxScale - s) := by omega
    rw [hpower, Nat.pow_add, ← Nat.mul_assoc] at h
    have hzeros := Nat.eq_of_mul_eq_mul_right (hpos _) h
    rw [if_pos hfewer, Nat.pow_eq, hzeros, roundHalfUp_mul _ (hpos _)]
  · have hpower : maxScale - s = x.scale - s + (maxScale - x.scale) := by omega
    rw [hpower, Nat.pow_add, ← Nat.mul_assoc] at h
    have hzeros := Nat.eq_of_mul_eq_mul_right (hpos _) h
    have hsum : s + (x.scale - s) = x.scale := by omega
    rw [if_neg hfewer, extend_eq]
    · dsimp only
      rw [hzeros, hsum]
    · exact hzeros.le.trans hcoefficient

end Numeric

end PgCollections
