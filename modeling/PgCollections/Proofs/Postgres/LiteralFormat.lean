import PgCollections.Proofs.Number.Numeric
import PgCollections.Proofs.Number.Total
import PgCollections.Proofs.Postgres.Format
import PgCollections.Proofs.Time.Calendar

/-! # Literals in the server's format

Dates, local times, exact decimals and identifiers in the server's format.  `Datum.IsLiteral` tells
the values of these types, and `Datum.kept` is what the server keeps of a value: the value, but a
zero without sign and decimals.  What is sent is read as what is kept
(`Datum.decode?_encode_literal`), and within the limits of decimals the values of the types are
those that are read of some bytes (`Datum.isLiteral_iff`). -/

namespace PgCollections

/-! ### Decimals -/

namespace Numeric

theorem value_groups (n : Nat) : value (groups n) = n := by
  fun_induction groups n with
  | case1 => rfl
  | case2 n _ ih =>
      have hdigit : value [n % 10000] = n % 10000 := by simp [value]
      rw [value_append, ih, hdigit, List.length_singleton, Nat.pow_one]
      omega

theorem lt_of_mem_groups {n group : Nat} (h : group ∈ groups n) : group < 10000 := by
  fun_induction groups n with
  | case1 => cases h
  | case2 n _ ih =>
      rcases List.mem_append.mp h with h | h
      · exact ih h
      · rw [List.mem_singleton.mp h]
        omega

/-- A number has no more groups than it needs. -/
theorem length_groups_le {n count : Nat} (h : n < 10000 ^ count) : (groups n).length ≤ count := by
  fun_induction groups n generalizing count with
  | case1 => exact Nat.zero_le count
  | case2 n hn ih =>
      cases count with
      | zero => omega
      | succ count =>
          rw [Nat.pow_succ'] at h
          have hrest := ih (Nat.div_lt_of_lt_mul h)
          rw [List.length_append, List.length_singleton]
          omega

/-- Nothing but zeros at the end is left out. -/
theorem exists_zeros_significant (gs : List Nat) :
    ∃ zeros, gs = significant gs ++ List.replicate zeros 0 := by
  refine ⟨(gs.reverse.takeWhile (· = 0)).length, ?_⟩
  have hzeros : gs.reverse.takeWhile (· = 0) =
      List.replicate (gs.reverse.takeWhile (· = 0)).length 0 := by
    rw [List.eq_replicate_iff]
    exact ⟨rfl, fun group hgroup => by simpa using List.mem_takeWhile_imp hgroup⟩
  rw [← List.reverse_inj, List.reverse_append, List.reverse_replicate, ← hzeros, significant,
    List.reverse_reverse, List.takeWhile_append_dropWhile]

theorem lt_of_mem_significant {n group : Nat} (h : group ∈ significant (groups n)) :
    group < 10000 := by
  obtain ⟨zeros, hzeros⟩ := exists_zeros_significant (groups n)
  apply lt_of_mem_groups (n := n)
  rw [hzeros]
  exact List.mem_append_left _ h

theorem value_replicate (zeros : Nat) : value (List.replicate zeros 0) = 0 := by
  induction zeros with
  | zero => rfl
  | succ zeros ih => rw [List.replicate_succ, value, ih, Nat.zero_mul]

/-- The groups that are kept stand for the number, up to zeros behind them. -/
theorem value_significant (n : Nat) :
    ∃ zeros, (groups n).length = (significant (groups n)).length + zeros ∧
      value (significant (groups n)) * 10000 ^ zeros = n := by
  obtain ⟨zeros, hzeros⟩ := exists_zeros_significant (groups n)
  refine ⟨zeros, ?_, ?_⟩
  · have hlength := congrArg List.length hzeros
    rwa [List.length_append, List.length_replicate] at hlength
  · have hvalue := congrArg value hzeros
    rw [value_append, value_replicate, List.length_replicate, value_groups] at hvalue
    exact hvalue.symm

/-- Groups are read back one after the other. -/
theorem decodeGroups?_flatMap {gs : List Nat} (h : ∀ group ∈ gs, group < 10000) :
    decodeGroups? gs.length (gs.flatMap (Bytes.ofNat 2)) = some (gs.map Int.ofNat) := by
  induction gs with
  | nil => rfl
  | cons group gs ih =>
      have hgroup : 2 * group < 256 ^ 2 := by
        have := h group List.mem_cons_self
        omega
      have hrest := ih fun group hgroup => h group (List.mem_cons_of_mem _ hgroup)
      rw [List.length_cons, decodeGroups?, List.flatMap_cons, Bytes.takeInt?_append hgroup]
      simp only [Option.bind_eq_bind, Option.bind_some, hrest]
      rfl

section encoded

variable {x : Numeric}

/-- The decimals of a number, filled up to whole groups. -/
theorem aligned_eq (x : Numeric) : ∃ filled < 4, x.aligned = x.coefficient * 10 ^ filled ∧
    4 * ((x.scale + 3) / 4) = x.scale + filled := by
  refine ⟨(4 - x.scale % 4) % 4, by omega, rfl, by omega⟩

/-- A number within the limits has no more than eight groups. -/
theorem length_groups_aligned_le (h : x.isLimited) : (groups x.aligned).length ≤ 8 := by
  obtain ⟨filled, hfilled, haligned, -⟩ := x.aligned_eq
  have hlimits := of_decide_eq_true h
  apply length_groups_le
  have hpower : 10 ^ filled ≤ 10 ^ 3 := Nat.pow_le_pow_right (by decide) (by omega)
  have hmax : maxCoefficient * 10 ^ 3 < 10000 ^ 8 := by decide
  rw [haligned]
  exact (Nat.mul_le_mul hlimits.1 hpower).trans_lt hmax

/-- The number of a decimal in units of the last decimal is that of its groups. -/
theorem units_eq (h : x.scale ≤ maxScale) :
    x.coefficient * 10 ^ (maxScale - x.scale) =
      x.aligned * 10000 ^ (7 - (x.scale + 3) / 4) := by
  obtain ⟨filled, -, haligned, hgroups⟩ := x.aligned_eq
  have hmax : maxScale = 28 := rfl
  have hpower : maxScale - x.scale = filled + 4 * (7 - (x.scale + 3) / 4) := by omega
  rw [haligned, hpower, Nat.pow_add, Nat.pow_mul, Nat.mul_assoc]

/-- The groups of a number within the limits add up to the number. -/
theorem ofGroups?_significant (h : x.isLimited) (hne : x.coefficient ≠ 0) :
    ∃ y, ofGroups? x.negative ((groups x.aligned).length - (x.scale + 3) / 4 - 1 : Int)
        ((significant (groups x.aligned)).map Int.ofNat) = some y ∧ y.rescale x.scale = x := by
  have hlimits := of_decide_eq_true h
  have hlength := length_groups_aligned_le h
  have hscale : (x.scale + 3) / 4 ≤ 7 := by
    have hmax : maxScale = 28 := rfl
    omega
  obtain ⟨zeros, hcount, hvalue⟩ := value_significant x.aligned
  have hmem : ∀ group ∈ significant (groups x.aligned), group < 10000 :=
    fun _ => lt_of_mem_significant
  generalize significant (groups x.aligned) = kept at hcount hvalue hmem ⊢
  -- The place of the first group, counted from the last one that there is room for.
  obtain ⟨place, hplace⟩ : ∃ place, place + (x.scale + 3) / 4 = (groups x.aligned).length + 7 :=
    ⟨(groups x.aligned).length + 7 - (x.scale + 3) / 4, by omega⟩
  have hunits : x.coefficient * 10 ^ (maxScale - x.scale) =
      0 + value kept * 10000 ^ (place - kept.length) := by
    have hpower : place - kept.length = zeros + (7 - (x.scale + 3) / 4) := by omega
    rw [Nat.zero_add, units_eq hlimits.2, ← hvalue, hpower, Nat.pow_add, Nat.mul_assoc]
  have hfits : Total.Fits (0 + value kept * 10000 ^ (place - kept.length)) :=
    ⟨x.coefficient, hlimits.1, x.scale, hlimits.2, hunits⟩
  have hzero : ({} : Total).Denotes 0 := ⟨0, Nat.zero_le _, rfl, Nat.zero_le _, Nat.zero_mul _⟩
  obtain ⟨t, ht, c, -, hc, hs, hdenotes⟩ :=
    Total.addGroups?_denotes hmem (by omega) (by omega) hzero (Nat.dvd_zero _) hfits
  have hweight : ((groups x.aligned).length - (x.scale + 3) / 4 - 1 : Int) = place - 8 := by
    omega
  refine ⟨⟨x.negative, t.coefficient.natAbs, t.scale⟩, ?_, ?_⟩
  · rw [ofGroups?, hweight, ht]
    rfl
  · rw [hc, Int.natAbs_natCast]
    exact rescale_eq hlimits.1 hlimits.2 hne hs (hdenotes.trans hunits.symm)

end encoded

/-- The fields of a number are read one after the other. -/
theorem decode?_fields {negative : Bool} {weight : Int} {scale : Nat} {gs : List Nat} {y : Numeric}
    (hne : gs ≠ []) (hgroups : ∀ group ∈ gs, group < 10000) (hcount : gs.length < 256 ^ 2)
    (hweight : Bytes.Fits 2 weight) (hscale : scale < 256 ^ 2)
    (h : ofGroups? negative weight (gs.map Int.ofNat) = some y) :
    decode? (Bytes.ofNat 2 gs.length ++ Bytes.ofInt 2 weight ++
      Bytes.ofNat 2 (if negative then 0x4000 else 0) ++ Bytes.ofNat 2 scale ++
      gs.flatMap (Bytes.ofNat 2)) = some (y.rescale scale) := by
  have hsign : (if negative then 0x4000 else 0) < 256 ^ 2 := by
    split <;> omega
  have hsome : (gs.map Int.ofNat).isEmpty = false := by simpa using hne
  unfold decode?
  simp only [List.append_assoc, Bytes.takeNat?_append hcount, Bytes.takeInt?_ofInt_append hweight,
    Bytes.takeNat?_append hsign, Bytes.takeNat?_append hscale, Option.bind_eq_bind,
    Option.bind_some, decodeGroups?_flatMap hgroups]
  have hnegative : decide ((if negative then 0x4000 else 0) ≠ 0) = negative := by
    cases negative <;> rfl
  have hknown : ¬ ((if negative then 0x4000 else 0) ≠ 0 ∧
      (if negative then 0x4000 else 0) ≠ 0x4000) := by
    cases negative <;> decide
  rw [if_neg hknown, hsome, if_neg Bool.false_ne_true, hnegative, h]
  rfl

/-- What is kept of a number: all of it, but a zero has neither sign nor decimals. -/
def kept (x : Numeric) : Numeric := if x.coefficient = 0 then ⟨false, 0, 0⟩ else x

section nonzero

variable {x : Numeric}

theorem significant_ne_nil (hne : x.coefficient ≠ 0) : significant (groups x.aligned) ≠ [] := by
  obtain ⟨zeros, -, hvalue⟩ := value_significant x.aligned
  obtain ⟨filled, -, haligned, -⟩ := x.aligned_eq
  intro hnil
  rw [hnil, value, Nat.zero_mul, haligned] at hvalue
  have hpower : 0 < 10 ^ filled := Nat.pow_pos (by decide)
  have hpos := Nat.mul_pos (Nat.pos_of_ne_zero hne) hpower
  omega

/-- The fields of a number that is not zero. -/
theorem encode_eq (hne : x.coefficient ≠ 0) :
    x.encode = Bytes.ofNat 2 (significant (groups x.aligned)).length ++
      Bytes.ofInt 2 ((groups x.aligned).length - (x.scale + 3) / 4 - 1 : Int) ++
      Bytes.ofNat 2 (if x.negative then 0x4000 else 0) ++ Bytes.ofNat 2 x.scale ++
      (significant (groups x.aligned)).flatMap (Bytes.ofNat 2) := by
  rw [encode, if_neg hne]

theorem decode?_encode_of_ne (h : x.isLimited) (hne : x.coefficient ≠ 0) :
    decode? x.encode = some x := by
  have hmax : maxScale = 28 := rfl
  have hscale : x.scale < 256 ^ 2 := by
    have hle : x.scale ≤ maxScale := (of_decide_eq_true h).2
    omega
  have hlength := length_groups_aligned_le h
  obtain ⟨zeros, hcount, -⟩ := value_significant x.aligned
  have hweight : Bytes.Fits 2 ((groups x.aligned).length - (x.scale + 3) / 4 - 1 : Int) := by
    rw [Bytes.Fits]
    omega
  obtain ⟨y, hy, hscaled⟩ := ofGroups?_significant h hne
  have hread := decode?_fields (significant_ne_nil hne) (fun _ => lt_of_mem_significant)
    (by omega) hweight hscale hy
  rwa [← encode_eq hne, hscaled] at hread

end nonzero

/-- A number within the limits is read back from its bytes, as far as it is kept. -/
theorem decode?_encode {x : Numeric} (h : x.isLimited) : decode? x.encode = some x.kept := by
  rw [kept]
  by_cases hzero : x.coefficient = 0
  · rw [if_pos hzero, encode, if_pos hzero]
    rfl
  · rw [if_neg hzero]
    exact decode?_encode_of_ne h hzero

/-- A zero with a sign and with decimals is read of one group. -/
theorem exists_decode?_zero {x : Numeric} (h : x.isLimited) (hzero : x.coefficient = 0) :
    ∃ bytes, decode? bytes = some x := by
  obtain ⟨negative, coefficient, scale⟩ := x
  obtain rfl : coefficient = 0 := hzero
  have hmax : maxScale = 28 := rfl
  have hscale : scale ≤ maxScale := (of_decide_eq_true h).2
  have hgroup : ∀ group ∈ [0], group < 10000 := by simp
  have hweight : Bytes.Fits 2 0 := ⟨by decide, by decide⟩
  have hsum : ofGroups? negative 0 ([0].map Int.ofNat) = some ⟨negative, 0, 0⟩ := rfl
  have hdecimals : scale < 256 ^ 2 := by omega
  have hread := decode?_fields (List.cons_ne_nil 0 []) hgroup (by decide) hweight hdecimals hsum
  rw [rescale, if_pos rfl, Nat.min_eq_left hscale] at hread
  exact ⟨_, hread⟩

end Numeric

/-! ### Scalars -/

namespace Scalar

/-- A date is read back from its bytes. -/
theorem decodeDate?_ofInt {d : Date} (h : d.isValid) :
    decodeDate? (Bytes.ofInt 4 d.dayNumber) = some d := by
  have hfits : Bytes.Fits 4 d.dayNumber := by
    have hbounds := Date.dayNumber_bounds h
    unfold Date.daysBeforeYear Date.firstYear Date.lastYear at hbounds
    rw [Bytes.Fits]
    omega
  rw [decodeDate?, leading?_ofInt, Option.bind_eq_bind, Option.bind_some, Bytes.toInt_ofInt hfits,
    Date.ofDayNumber_dayNumber h]
  exact if_pos h

/-- A date that was read exists. -/
theorem isValid_of_decodeDate? {bytes : Bytes} {d : Date} (h : decodeDate? bytes = some d) :
    d.isValid := by
  obtain ⟨first, -, hdate⟩ := Option.bind_eq_some_iff.mp h
  dsimp only at hdate
  split at hdate
  case isTrue hvalid =>
      obtain rfl := Option.some.inj hdate
      exact hvalid
  case isFalse => cases hdate

/-- A moment of whole microseconds is read back from its bytes. -/
theorem decodeMoment?_encodeMoment {t : Timestamp} (h : t.date.isValid)
    (hmicros : 1000 ∣ t.nanoseconds) : decodeMoment? (encodeMoment t) = some t := by
  obtain ⟨micros, hmicros⟩ := hmicros
  have hexact : t.micros = micros := by
    rw [Timestamp.micros, hmicros]
    exact Int.mul_tdiv_cancel_left micros (by decide)
  have hmoment : (⟨micros * 1000⟩ : Timestamp) = t := by
    rw [Int.mul_comm, ← hmicros]
  have hfits : Bytes.Fits 8 micros := by
    have hbounds := Date.dayNumber_bounds h
    rw [Timestamp.date, Date.dayNumber_ofDayNumber] at hbounds
    unfold Date.daysBeforeYear Date.firstYear Date.lastYear Timestamp.nanosPerDay
      Timestamp.nanosPerSecond at hbounds
    rw [Bytes.Fits]
    omega
  rw [decodeMoment?, encodeMoment, hexact, leading?_ofInt, Option.bind_eq_bind, Option.bind_some,
    Bytes.toInt_ofInt hfits, Timestamp.ofMicros?, hmoment]
  exact if_pos h

/-- A moment that was read is one of whole microseconds. -/
theorem dvd_of_decodeMoment? {bytes : Bytes} {t : Timestamp} (h : decodeMoment? bytes = some t) :
    1000 ∣ t.nanoseconds := by
  obtain ⟨first, -, hmicros⟩ := Option.bind_eq_some_iff.mp h
  simp only [Timestamp.ofMicros?] at hmicros
  split at hmicros
  case isTrue =>
      obtain rfl := Option.some.inj hmicros
      exact ⟨first.toInt, Int.mul_comm first.toInt 1000⟩
  case isFalse => cases hmicros

end Scalar

/-! ### Values -/

/-- The types of dates, local times, exact decimals and identifiers. -/
def PgType.isLiteral (type : PgType) : Bool :=
  type ∈ [PgType.date, .timestamp, .numeric, .uuid]

theorem PgType.isLiteral_iff {type : PgType} :
    type.isLiteral ↔ type = .date ∨ type = .timestamp ∨ type = .numeric ∨ type = .uuid := by
  simp [isLiteral]

namespace Datum

/-- A value of such a type: a date that exists, a local time of whole microseconds on such a date, a
decimal, or an identifier. -/
inductive IsLiteral : PgType → Datum → Prop
  | date {d : Date} (h : d.isValid) : IsLiteral .date (.scalar (.date d))
  | timestamp {t : Timestamp} (h : t.date.isValid) (hmicros : 1000 ∣ t.nanoseconds) :
      IsLiteral .timestamp (.scalar (.timestamp t))
  | numeric (x : Numeric) : IsLiteral .numeric (.scalar (.numeric x))
  | uuid (u : Uuid) : IsLiteral .uuid (.scalar (.uuid u))

/-- A decimal is within the limits of texts; other values have no limits. -/
def isLimited : Datum → Bool
  | scalar (.numeric x) => x.isLimited
  | _ => true

/-- What the server keeps of a value that is sent. -/
def kept : Datum → Datum
  | scalar (.numeric x) => scalar (.numeric x.kept)
  | datum => datum

variable {type : PgType} {datum : Datum}

/-- What is sent is read as what is kept. -/
theorem decode?_encode_literal (h : datum.IsLiteral type) (hlimited : datum.isLimited) :
    decode? type datum.encode = some datum.kept := by
  cases h with
  | date h =>
      simp only [decode?, Scalar.decode?, encode, Scalar.encode, Scalar.decodeDate?_ofInt h, kept,
        Option.map_some]
  | timestamp h hmicros =>
      simp only [decode?, Scalar.decode?, encode, Scalar.encode,
        Scalar.decodeMoment?_encodeMoment h hmicros, kept, Option.map_some]
  | numeric x =>
      simp only [decode?, Scalar.decode?, encode, Scalar.encode, Numeric.decode?_encode hlimited,
        kept, Option.map_some]
  | uuid u =>
      have hbytes : Uuid.ofBytes? u.bytes = some u := dif_pos u.length_eq
      simp only [decode?, Scalar.decode?, encode, Scalar.encode, hbytes, kept, Option.map_some]

/-- Within the limits, the values of a type are those that are read of some bytes. -/
theorem isLiteral_iff (htype : type.isLiteral) (hlimited : datum.isLimited) :
    datum.IsLiteral type ↔ ∃ bytes, decode? type bytes = some datum := by
  constructor
  · intro h
    have hread := decode?_encode_literal h hlimited
    cases h with
    | date | timestamp | uuid => exact ⟨_, hread⟩
    | numeric x =>
        by_cases hzero : x.coefficient = 0
        · obtain ⟨bytes, hbytes⟩ := Numeric.exists_decode?_zero hlimited hzero
          exact ⟨bytes, by simp only [decode?, Scalar.decode?, hbytes, Option.map_some]⟩
        · rw [kept, Numeric.kept, if_neg hzero] at hread
          exact ⟨_, hread⟩
  · rintro ⟨bytes, h⟩
    rcases PgType.isLiteral_iff.mp htype with rfl | rfl | rfl | rfl
    all_goals obtain ⟨x, hx, rfl⟩ := Option.map_eq_some_iff.mp h
    · obtain ⟨d, hd, rfl⟩ := Option.map_eq_some_iff.mp hx
      exact .date (Scalar.isValid_of_decodeDate? hd)
    · obtain ⟨t, ht, rfl⟩ := Option.map_eq_some_iff.mp hx
      exact .timestamp (Scalar.isValid_of_decodeMoment? ht) (Scalar.dvd_of_decodeMoment? ht)
    · obtain ⟨n, -, rfl⟩ := Option.map_eq_some_iff.mp hx
      exact .numeric n
    · obtain ⟨u, -, rfl⟩ := Option.map_eq_some_iff.mp hx
      exact .uuid u

end Datum

end PgCollections
