import PgCollections.Proofs.Json.Scalar
import PgCollections.Proofs.Traversal

/-! # What JSON texts stand for

`Json.Fits` tells the values that a text can stand for: whole numbers for which there is room, no
name twice in an object, and a bounded number of containers inside each other.  Whatever is read of
a text is such a value (`Json.fits_of_parse?`): each step of the reader keeps what is in the open
containers within the bounds (`Json.fits_of_step`), and a run ends with what the steps have built.
A string is read of nothing but a longer text (`Json.length_of_parse?_string`), so that no text
stands for itself. -/

namespace PgCollections.Json

open Scan

/-! ### Doubles of a value -/

mutual

/-- The doubles that occur in a value. -/
def doubles : Json → List Double
  | .number (.float x) => [x]
  | .array items => itemDoubles items
  | .object fields => fieldDoubles fields
  | .null | .bool _ | .number (.int _) | .string _ => []

def itemDoubles : List Json → List Double
  | [] => []
  | v :: rest => v.doubles ++ itemDoubles rest

def fieldDoubles : List (String × Json) → List Double
  | [] => []
  | (_, v) :: rest => v.doubles ++ fieldDoubles rest

end

theorem itemDoubles_eq (items : List Json) : itemDoubles items = items.flatMap doubles := by
  induction items with
  | nil => rfl
  | cons v items ih => rw [itemDoubles, ih, List.flatMap_cons]

theorem fieldDoubles_eq (fields : List (String × Json)) :
    fieldDoubles fields = fields.flatMap fun field => field.2.doubles := by
  induction fields with
  | nil => rfl
  | cons field fields ih => rw [fieldDoubles, ih, List.flatMap_cons]

/-- The text of each double is read as the double. -/
def Exact (v : Json) : Prop := ∀ x ∈ v.doubles, (Number.float x).isExact

theorem Exact.item {items : List Json} (h : (Json.array items).Exact) {v : Json} (hv : v ∈ items) :
    v.Exact := by
  intro x hx
  apply h
  rw [doubles, itemDoubles_eq]
  exact List.mem_flatMap.mpr ⟨v, hv, hx⟩

theorem Exact.field {fields : List (String × Json)} (h : (Json.object fields).Exact)
    {field : String × Json} (hfield : field ∈ fields) : field.2.Exact := by
  intro x hx
  apply h
  rw [doubles, fieldDoubles_eq]
  exact List.mem_flatMap.mpr ⟨field, hfield, hx⟩

/-! ### Values that texts stand for -/

/-- A value that a text can stand for, with at most `room` containers inside each other. -/
inductive Fits : Nat → Json → Prop
  | null {room : Nat} : Fits room .null
  | bool {room : Nat} (b : Bool) : Fits room (.bool b)
  | number {room : Nat} {n : Number} (h : n.Fits) : Fits room (.number n)
  | string {room : Nat} (s : String) : Fits room (.string s)
  | array {room : Nat} {items : List Json} (hitems : ∀ v ∈ items, Fits room v) :
      Fits (room + 1) (.array items)
  | object {room : Nat} {fields : List (String × Json)} (hnames : (Keyed.keys fields).Nodup)
      (hfields : ∀ field ∈ fields, Fits room field.2) : Fits (room + 1) (.object fields)

/-! ### Runs of the reader -/

/-- Goes on reading after a step. -/
def State.resume (depth : Nat) : State → List Char → Option (Json × List Char)
  | .done v, rest => some (v, rest)
  | .reading goal stack, rest => run depth goal stack rest

theorem run_eq (depth : Nat) (goal : Goal) (stack : List Frame) (cs : List Char) :
    run depth goal stack cs =
      (step depth goal stack (skipBlanks cs)).bind fun next => next.1.resume depth next.2 := by
  rw [run]
  split
  case h_1 hstep => rw [hstep]; rfl
  case h_2 hstep => rw [hstep]; rfl
  case h_3 hstep => rw [hstep]; rfl

/-- What a step that looks at the characters makes of the open containers. -/
inductive Advance (depth : Nat) (cs : List Char) : List Frame → State → Prop
  | openedItems {stack : List Frame} (hopen : stack.length < depth) :
      Advance depth cs stack (.reading .firstItem (.items [] :: stack))
  | openedFields {stack : List Frame} (hopen : stack.length < depth) :
      Advance depth cs stack (.reading .firstName (.fields [] "" :: stack))
  | scalar {stack : List Frame} {v : Json} {rest : List Char}
      (hread : readScalar cs = some (v, rest)) : Advance depth cs stack (.after v stack)
  | named {before : List (String × Json)} {last name : String} {below : List Frame} :
      Advance depth cs (.fields before last :: below)
        (.reading .value (.fields before name :: below))
  | continued {goal : Goal} {frame : Frame} {below : List Frame} :
      Advance depth cs (frame :: below) (.reading goal (frame :: below))
  | closedItems {before : List Json} {below : List Frame} :
      Advance depth cs (.items before :: below) (.after (.array before.reverse) below)
  | closedFields {before : List (String × Json)} {name : String} {below : List Frame} :
      Advance depth cs (.fields before name :: below) (.after (.object before) below)

theorem advance_of_stepValue {depth : Nat} {stack : List Frame} {cs rest : List Char}
    {next : State} (h : stepValue depth stack cs = some (next, rest)) :
    Advance depth cs stack next := by
  unfold stepValue at h
  split at h
  case h_1 =>
      split at h
      case isTrue hopen =>
          cases h
          exact .openedItems hopen
      case isFalse => cases h
  case h_2 =>
      split at h
      case isTrue hopen =>
          cases h
          exact .openedFields hopen
      case isFalse => cases h
  case h_3 =>
      obtain ⟨⟨v, left⟩, hread, hpair⟩ := Option.map_eq_some_iff.mp h
      cases hpair
      exact .scalar hread

theorem advance_of_stepName {depth : Nat} {stack : List Frame} {cs rest : List Char}
    {next : State} (h : stepName stack cs = some (next, rest)) : Advance depth cs stack next := by
  unfold stepName at h
  split at h
  case h_1 =>
      split at h
      case h_1 =>
          split at h
          case h_1 =>
              cases h
              exact .named
          case h_2 => cases h
      case h_2 => cases h
  case h_2 => cases h

theorem advance_of_stepSeparator {depth : Nat} {stack : List Frame} {cs rest : List Char}
    {next : State} (h : stepSeparator stack cs = some (next, rest)) :
    Advance depth cs stack next := by
  unfold stepSeparator at h
  split at h
  case h_5 => cases h
  all_goals cases h
  case h_1 => exact .continued
  case h_2 => exact .closedItems
  case h_3 => exact .continued
  case h_4 => exact .closedFields

theorem advance_of_step {depth : Nat} {goal : Goal} {stack : List Frame} {cs rest : List Char}
    {next : State} (h : step depth goal stack cs = some (next, rest)) :
    Advance depth cs stack next := by
  cases goal with
  | value => exact advance_of_stepValue h
  | name => exact advance_of_stepName h
  | separator => exact advance_of_stepSeparator h
  | firstItem =>
      rw [step] at h
      split at h
      case isTrue => exact advance_of_stepSeparator h
      case isFalse => exact advance_of_stepValue h
  | firstName =>
      rw [step] at h
      split at h
      case isTrue => exact advance_of_stepSeparator h
      case isFalse => exact advance_of_stepName h

/-! ### What is read fits -/

namespace Frame

/-- What a frame holds are values that have at most `room` containers inside each other. -/
def Fits (room : Nat) : Frame → Prop
  | .items before => ∀ v ∈ before, v.Fits room
  | .fields before _ => (Keyed.keys before).Nodup ∧ ∀ field ∈ before, field.2.Fits room

theorem fits_place {room : Nat} {frame : Frame} {v : Json} (h : frame.Fits room)
    (hv : v.Fits room) : (frame.place v).Fits room := by
  cases frame with
  | items before => exact List.forall_mem_cons.mpr ⟨hv, h⟩
  | fields before name =>
      refine ⟨Keyed.nodup_keys_insert h.1 name v, ?_⟩
      intro field hfield
      rcases Keyed.mem_insert hfield with rfl | hbefore
      · exact hv
      · exact h.2 field hbefore

end Frame

variable {depth : Nat}

/-- The values in the open containers leave room for the containers around them. -/
def StackFits (depth : Nat) : List Frame → Prop
  | [] => True
  | frame :: below =>
    below.length < depth ∧ frame.Fits (depth - (below.length + 1)) ∧ StackFits depth below

namespace State

def Fits (depth : Nat) : State → Prop
  | .done v => v.Fits depth
  | .reading _ stack => StackFits depth stack

theorem fits_after {v : Json} {stack : List Frame} (hv : v.Fits (depth - stack.length))
    (hstack : StackFits depth stack) : (State.after v stack).Fits depth := by
  cases stack with
  | nil => exact hv
  | cons frame below =>
      obtain ⟨hopen, hframe, hbelow⟩ := hstack
      exact ⟨hopen, Frame.fits_place hframe hv, hbelow⟩

end State

theorem fits_of_readScalar {room : Nat} {cs rest : List Char} {v : Json}
    (h : readScalar cs = some (v, rest)) : v.Fits room := by
  unfold readScalar at h
  split at h
  all_goals obtain ⟨read, hread, hpair⟩ := Option.map_eq_some_iff.mp h
  · obtain ⟨rfl, -⟩ := Prod.mk.inj hpair
    exact .string read.1
  · obtain ⟨rfl, -⟩ := Prod.mk.inj hpair
    exact .null
  · obtain ⟨rfl, -⟩ := Prod.mk.inj hpair
    exact .bool true
  · obtain ⟨rfl, -⟩ := Prod.mk.inj hpair
    exact .bool false
  · obtain ⟨rfl, -⟩ := Prod.mk.inj hpair
    exact .number (fits_of_readNumber hread)

/-- A container that is closed leaves room for the values that were in it. -/
theorem sub_length_eq {below : List Frame} (h : below.length < depth) :
    depth - below.length = depth - (below.length + 1) + 1 := by
  omega

/-- A step keeps what is read within the bounds. -/
theorem fits_of_step {goal : Goal} {stack : List Frame} {cs rest : List Char} {next : State}
    (hstack : StackFits depth stack) (h : step depth goal stack cs = some (next, rest)) :
    next.Fits depth := by
  cases advance_of_step h with
  | openedItems hopen =>
      refine ⟨hopen, ?_, hstack⟩
      intro v hv
      cases hv
  | openedFields hopen =>
      refine ⟨hopen, ⟨List.nodup_nil, ?_⟩, hstack⟩
      intro field hfield
      cases hfield
  | scalar hread => exact State.fits_after (fits_of_readScalar hread) hstack
  | named => exact hstack
  | continued => exact hstack
  | closedItems =>
      obtain ⟨hopen, hitems, hbelow⟩ := hstack
      refine State.fits_after ?_ hbelow
      rw [sub_length_eq hopen]
      exact .array fun v hv => hitems v (List.mem_reverse.mp hv)
  | closedFields =>
      obtain ⟨hopen, ⟨hnames, hfields⟩, hbelow⟩ := hstack
      refine State.fits_after ?_ hbelow
      rw [sub_length_eq hopen]
      exact .object hnames hfields

theorem fits_of_run {goal : Goal} {stack : List Frame} {cs rest : List Char} {v : Json}
    (hstack : StackFits depth stack) (h : run depth goal stack cs = some (v, rest)) :
    v.Fits depth := by
  fun_induction run depth goal stack cs with
  | case1 => cases h
  | case2 goal stack cs w left hstep =>
      cases h
      exact fits_of_step hstack hstep
  | case3 goal stack cs goal' stack' left hstep ih => exact ih (fits_of_step hstack hstep) h

theorem parse?_eq_some_iff {s : String} {v : Json} :
    parse? s depth = some v ↔
      ∃ rest, run depth .value [] s.toList = some (v, rest) ∧ skipBlanks rest = [] := by
  simp only [parse?, read?, Option.bind_eq_bind, Option.bind_eq_some_iff, Prod.exists]
  constructor
  · rintro ⟨w, rest, hrun, hv⟩
    split at hv
    case isTrue hrest =>
        cases hv
        exact ⟨rest, hrun, List.isEmpty_iff.mp hrest⟩
    case isFalse => cases hv
  · rintro ⟨rest, hrun, hrest⟩
    exact ⟨v, rest, hrun, if_pos (List.isEmpty_iff.mpr hrest)⟩

/-- Whatever is read of a text is a value that texts can stand for. -/
theorem fits_of_parse? {s : String} {v : Json} (h : parse? s depth = some v) : v.Fits depth := by
  obtain ⟨rest, hrun, -⟩ := parse?_eq_some_iff.mp h
  have hstack : StackFits depth [] := trivial
  exact fits_of_run hstack hrun

/-! ### Strings -/

theorem length_le_of_unescape {cs chars : List Char} (h : unescape cs = some chars) :
    chars.length ≤ cs.length := by
  fun_induction unescape cs generalizing chars with
  | case1 =>
      cases h
      simp
  | case2 a b c d rest ihPair ih =>
      simp only [Option.bind_eq_bind, Option.bind_eq_some_iff] at h
      obtain ⟨unit, -, h⟩ := h
      split at h
      case isTrue =>
          split at h
          case h_1 =>
              simp only [Option.bind_eq_some_iff] at h
              obtain ⟨low, -, h⟩ := h
              split at h
              case isTrue =>
                  obtain ⟨more, hmore, h⟩ := Option.bind_eq_some_iff.mp h
                  cases h
                  have hle := ihPair hmore
                  simp only [List.length_cons]
                  omega
              case isFalse => cases h
          case h_2 => cases h
      case isFalse =>
          split at h
          case isTrue => cases h
          case isFalse =>
              obtain ⟨more, hmore, h⟩ := Option.bind_eq_some_iff.mp h
              cases h
              have hle := ih hmore
              simp only [List.length_cons]
              omega
  | case3 => cases h
  | case4 c rest _ ih =>
      simp only [Option.bind_eq_bind, Option.bind_eq_some_iff] at h
      obtain ⟨letter, -, more, hmore, h⟩ := h
      cases h
      have hle := ih hmore
      simp only [List.length_cons]
      omega
  | case5 => cases h
  | case6 c rest _ _ _ _ ih =>
      obtain ⟨more, hmore, rfl⟩ := Option.map_eq_some_iff.mp h
      have hle := ih hmore
      simp only [List.length_cons]
      omega

theorem length_add_of_spanString {cs written rest : List Char}
    (h : spanString cs = some (written, rest)) : written.length + 1 + rest.length = cs.length := by
  fun_induction spanString cs generalizing written rest with
  | case1 => cases h
  | case2 =>
      cases h
      simp only [List.length_nil, List.length_cons]
      omega
  | case3 => cases h
  | case4 c rest ih =>
      obtain ⟨⟨more, left⟩, hspan, hpair⟩ := Option.map_eq_some_iff.mp h
      cases hpair
      have hmore := ih hspan
      simp only [List.length_cons]
      omega
  | case5 c rest _ _ _ ih =>
      obtain ⟨⟨more, left⟩, hspan, hpair⟩ := Option.map_eq_some_iff.mp h
      cases hpair
      have hmore := ih hspan
      simp only [List.length_cons]
      omega

/-- A string is shorter than its text: the quotes are not part of it. -/
theorem length_of_readScalar_string {cs rest : List Char} {s : String}
    (h : readScalar cs = some (.string s, rest)) : s.length + 2 ≤ cs.length := by
  unfold readScalar at h
  split at h
  all_goals obtain ⟨read, hread, hpair⟩ := Option.map_eq_some_iff.mp h
  · cases hpair
    simp only [readString, Option.bind_eq_bind, Option.bind_eq_some_iff] at hread
    obtain ⟨⟨written, left⟩, hspan, chars, hchars, hs⟩ := hread
    cases hs
    have hshorter : chars.length ≤ written.length := length_le_of_unescape hchars
    have hspanned := length_add_of_spanString hspan
    simp only [String.length_ofList, List.length_cons]
    omega
  all_goals cases hpair

/-- A state with an open container ends with a container. -/
def State.EndsContainer : State → Prop
  | .done v => v.asString? = none
  | .reading _ stack => stack ≠ []

theorem State.endsContainer_after {v : Json} (hv : v.asString? = none) (stack : List Frame) :
    (State.after v stack).EndsContainer := by
  cases stack with
  | nil => exact hv
  | cons frame below => exact List.cons_ne_nil _ _

theorem endsContainer_of_step {goal : Goal} {stack : List Frame} {cs rest : List Char}
    {next : State} (hstack : stack ≠ []) (h : step depth goal stack cs = some (next, rest)) :
    next.EndsContainer := by
  cases advance_of_step h with
  | scalar =>
      obtain ⟨frame, below, rfl⟩ := List.exists_cons_of_ne_nil hstack
      exact List.cons_ne_nil _ _
  | closedItems => exact State.endsContainer_after rfl _
  | closedFields => exact State.endsContainer_after rfl _
  | _ => exact List.cons_ne_nil _ _

/-- Once a container is open, no string is the whole value. -/
theorem asString?_of_run {goal : Goal} {stack : List Frame} {cs rest : List Char} {v : Json}
    (hstack : stack ≠ []) (h : run depth goal stack cs = some (v, rest)) : v.asString? = none := by
  fun_induction run depth goal stack cs with
  | case1 => cases h
  | case2 goal stack cs w left hstep =>
      cases h
      exact endsContainer_of_step hstack hstep
  | case3 goal stack cs goal' stack' left hstep ih =>
      exact ih (endsContainer_of_step hstack hstep) h

/-- A string is read of a longer text only. -/
theorem length_of_parse?_string {text s : String} (h : parse? text depth = some (.string s)) :
    s.length + 2 ≤ text.length := by
  obtain ⟨rest, hrun, -⟩ := parse?_eq_some_iff.mp h
  rw [run_eq] at hrun
  obtain ⟨⟨next, left⟩, hstep, hresume⟩ := Option.bind_eq_some_iff.mp hrun
  cases advance_of_step hstep with
  | scalar hread =>
      cases hresume
      have hlonger := length_of_readScalar_string hread
      have hblanks := length_skipBlanks_le text.toList
      rw [String.length_toList] at hblanks
      omega
  | openedItems => cases asString?_of_run (List.cons_ne_nil _ _) hresume
  | openedFields => cases asString?_of_run (List.cons_ne_nil _ _) hresume

end PgCollections.Json
