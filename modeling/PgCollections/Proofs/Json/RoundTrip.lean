import PgCollections.Proofs.Json.Value

/-! # JSON values read back

A value that a text can stand for is read from its own text if its doubles are (`Json.parse?_text`):
it is read in the same way inside whatever containers are open (`Json.ReadBack`), as long as there
is room for the containers in it.  More brackets than there is room for are refused
(`Json.parse?_brackets`). -/

namespace PgCollections.Json

open Scan

variable {depth : Nat}

/-! ### Steps of the reader -/

theorem skipBlanks_cons {c : Char} (h : isBlank c = false) (cs : List Char) :
    skipBlanks (c :: cs) = c :: cs := by
  rw [skipBlanks, List.dropWhile_cons, h]
  rfl

/-- A step that takes the next character, which is no blank. -/
theorem run_of_step {goal : Goal} {stack : List Frame} {c : Char} {cs rest : List Char}
    {next : State} (hblank : isBlank c = false)
    (h : step depth goal stack (c :: cs) = some (next, rest)) :
    run depth goal stack (c :: cs) = next.resume depth rest := by
  rw [run_eq, skipBlanks_cons hblank, h]
  rfl

theorem run_scalar {stack : List Frame} {c : Char} {cs rest : List Char} {v : Json}
    (hblank : isBlank c = false) (hbracket : c ≠ '[') (hbrace : c ≠ '\x7b')
    (h : readScalar (c :: cs) = some (v, rest)) :
    run depth .value stack (c :: cs) = (State.after v stack).resume depth rest := by
  apply run_of_step hblank
  rw [step]
  simp [stepValue, hbracket, hbrace, h]

theorem run_openItems {stack : List Frame} (h : stack.length < depth) (cs : List Char) :
    run depth .value stack ('[' :: cs) = run depth .firstItem (.items [] :: stack) cs := by
  have hstep : step depth .value stack ('[' :: cs) =
      some (.reading .firstItem (.items [] :: stack), cs) := if_pos h
  exact run_of_step rfl hstep

theorem run_openFields {stack : List Frame} (h : stack.length < depth) (cs : List Char) :
    run depth .value stack ('\x7b' :: cs) = run depth .firstName (.fields [] "" :: stack) cs := by
  have hstep : step depth .value stack ('\x7b' :: cs) =
      some (.reading .firstName (.fields [] "" :: stack), cs) := if_pos h
  exact run_of_step rfl hstep

/-- The first item of a list is read like any value, unless there is none. -/
theorem run_firstItem {stack : List Frame} {cs : List Char}
    (h : (skipBlanks cs).head? ≠ some ']') :
    run depth .firstItem stack cs = run depth .value stack cs := by
  have hstep : step depth .firstItem stack (skipBlanks cs) =
      step depth .value stack (skipBlanks cs) := if_neg h
  rw [run_eq, run_eq, hstep]

theorem run_firstItem_close (stack : List Frame) (cs : List Char) :
    run depth .firstItem stack (']' :: cs) = run depth .separator stack (']' :: cs) := by
  have hstep : step depth .firstItem stack (']' :: cs) =
      step depth .separator stack (']' :: cs) := rfl
  rw [run_eq, run_eq, skipBlanks_cons rfl, hstep]

theorem run_firstName {stack : List Frame} {cs : List Char}
    (h : (skipBlanks cs).head? ≠ some '\x7d') :
    run depth .firstName stack cs = run depth .name stack cs := by
  have hstep : step depth .firstName stack (skipBlanks cs) =
      step depth .name stack (skipBlanks cs) := if_neg h
  rw [run_eq, run_eq, hstep]

theorem run_firstName_close (stack : List Frame) (cs : List Char) :
    run depth .firstName stack ('\x7d' :: cs) = run depth .separator stack ('\x7d' :: cs) := by
  have hstep : step depth .firstName stack ('\x7d' :: cs) =
      step depth .separator stack ('\x7d' :: cs) := rfl
  rw [run_eq, run_eq, skipBlanks_cons rfl, hstep]

theorem run_nextItem (before : List Json) (below : List Frame) (cs : List Char) :
    run depth .separator (.items before :: below) (',' :: cs) =
      run depth .value (.items before :: below) cs :=
  run_of_step rfl (rfl : step depth .separator (.items before :: below) (',' :: cs) =
    some (.reading .value (.items before :: below), cs))

theorem run_closeItems (before : List Json) (below : List Frame) (rest : List Char) :
    run depth .separator (.items before :: below) (']' :: rest) =
      (State.after (.array before.reverse) below).resume depth rest :=
  run_of_step rfl rfl

theorem run_nextField (before : List (String × Json)) (name : String) (below : List Frame)
    (cs : List Char) :
    run depth .separator (.fields before name :: below) (',' :: cs) =
      run depth .name (.fields before name :: below) cs :=
  run_of_step rfl (rfl : step depth .separator (.fields before name :: below) (',' :: cs) =
    some (.reading .name (.fields before name :: below), cs))

theorem run_closeFields (before : List (String × Json)) (name : String) (below : List Frame)
    (rest : List Char) :
    run depth .separator (.fields before name :: below) ('\x7d' :: rest) =
      (State.after (.object before) below).resume depth rest :=
  run_of_step rfl rfl

/-- A name and its colon are read as they were written. -/
theorem run_name (before : List (String × Json)) (last name : String) (below : List Frame)
    (cs : List Char) :
    run depth .name (.fields before last :: below) ((quote name).toList ++ ':' :: cs) =
      run depth .value (.fields before name :: below) cs := by
  have hread := readString_escaped name (':' :: cs)
  have hstep : step depth .name (.fields before last :: below)
      ('"' :: (name.toList.flatMap escapeChar ++ '"' :: ':' :: cs)) =
        some (.reading .value (.fields before name :: below), cs) := by
    simp only [step, stepName, hread, skipBlanks_cons (c := ':') rfl]
  have htext : (quote name).toList ++ ':' :: cs =
      '"' :: (name.toList.flatMap escapeChar ++ '"' :: ':' :: cs) := by
    simp [quote]
  rw [htext]
  exact run_of_step rfl hstep

/-! ### Texts -/

theorem itemTexts_eq (items : List Json) : itemTexts items = items.map text := by
  induction items with
  | nil => rfl
  | cons v items ih => rw [itemTexts, ih, List.map_cons]

/-- A field as it is written. -/
def fieldText (field : String × Json) : String := quote field.1 ++ ":" ++ field.2.text

theorem fieldTexts_eq (fields : List (String × Json)) :
    fieldTexts fields = fields.map fieldText := by
  induction fields with
  | nil => rfl
  | cons field fields ih => rw [fieldTexts, ih, List.map_cons, fieldText]

/-- What is written behind the first of several parts. -/
def continuation (parts : List String) : List Char := parts.flatMap fun part => ',' :: part.toList

theorem toList_intercalate_comma (part : String) (parts : List String) :
    (",".intercalate (part :: parts)).toList = part.toList ++ continuation parts := by
  rw [String.toList_intercalate]
  induction parts generalizing part with
  | nil => simp [continuation]
  | cons next parts ih =>
      have hnext := ih next
      rw [List.map_cons] at hnext
      rw [List.map_cons, List.map_cons, List.intercalate_cons_cons, hnext]
      simp [continuation]

/-- What follows a part goes on with no number. -/
theorem stops_continuation (parts : List String) {closing : Char}
    (h : isNumberChar closing = false) (rest : List Char) :
    Stops isNumberChar (continuation parts ++ closing :: rest) := by
  cases parts with
  | nil => exact stops_cons h rest
  | cons part parts => exact stops_cons rfl _

/-- The characters of a list and of an object. -/
theorem toList_text_array (items : List Json) :
    (Json.array items).text.toList =
      '[' :: ((",".intercalate (items.map text)).toList ++ [']']) := by
  simp [text, itemTexts_eq]

theorem toList_text_object (fields : List (String × Json)) :
    (Json.object fields).text.toList =
      '\x7b' :: ((",".intercalate (fields.map fieldText)).toList ++ ['\x7d']) := by
  simp [text, fieldTexts_eq]

theorem toList_fieldText (field : String × Json) :
    (fieldText field).toList = (quote field.1).toList ++ ':' :: field.2.text.toList := by
  simp [fieldText]

theorem isExact_of_exact {n : Number} (hfits : n.Fits) (hexact : (Json.number n).Exact) :
    n.isExact := by
  cases n with
  | int n => exact Number.isExact_int hfits
  | float x => exact hexact x (by simp [doubles])

theorem not_isBlank_of_number {c : Char} (h : c = '-' ∨ c.isDigit) :
    isBlank c = false ∧ c ≠ '[' ∧ c ≠ '\x7b' ∧ c ≠ ']' ∧ c ≠ '"' ∧ c ≠ 'n' ∧ c ≠ 't' ∧ c ≠ 'f' := by
  rcases h with rfl | hdigit
  · decide
  · refine ⟨?_, ?_, ?_, ?_, ?_, ?_, ?_, ?_⟩
    · by_contra hblank
      simp only [isBlank, Bool.not_eq_false, Bool.or_eq_true, decide_eq_true_eq] at hblank
      rcases hblank with ((rfl | rfl) | rfl) | rfl <;> revert hdigit <;> decide
    all_goals
      rintro rfl
      revert hdigit
      decide

/-- The text of a value begins with a character that is neither a blank nor the end of a list. -/
theorem exists_cons_text {room : Nat} {v : Json} (h : v.Fits room) (hexact : v.Exact) :
    ∃ c more, v.text.toList = c :: more ∧ isBlank c = false ∧ c ≠ ']' := by
  cases h with
  | null => exact ⟨'n', _, rfl, by decide, by decide⟩
  | bool b =>
      cases b with
      | true => exact ⟨'t', _, rfl, by decide, by decide⟩
      | false => exact ⟨'f', _, rfl, by decide, by decide⟩
  | number hn =>
      have hread := of_decide_eq_true (isExact_of_exact hn hexact)
      obtain ⟨c, more, htext, hc⟩ := exists_cons_of_readNumber hread
      obtain ⟨hblank, -, -, hbracket, -⟩ := not_isBlank_of_number hc
      exact ⟨c, more, htext, hblank, hbracket⟩
  | string s =>
      have htext : (Json.string s).text.toList =
          '"' :: (s.toList.flatMap escapeChar ++ ['"']) := by
        simp [text, quote]
      exact ⟨'"', _, htext, by decide, by decide⟩
  | array => exact ⟨'[', _, toList_text_array _, by decide, by decide⟩
  | object => exact ⟨'\x7b', _, toList_text_object _, by decide, by decide⟩

/-! ### Reading a text -/

/-- The value is read from its text, whichever containers are open and whatever follows. -/
def ReadBack (depth room : Nat) (v : Json) : Prop :=
  ∀ (stack : List Frame) (rest : List Char), stack.length + room ≤ depth →
    Stops isNumberChar rest →
      run depth .value stack (v.text.toList ++ rest) = (State.after v stack).resume depth rest

/-- The items that follow the first ones of a list. -/
theorem run_items {room : Nat} {items : List Json} (h : ∀ v ∈ items, ReadBack depth room v)
    (before : List Json) (below : List Frame) (hroom : below.length + 1 + room ≤ depth)
    (rest : List Char) :
    run depth .separator (.items before :: below)
        (continuation (items.map text) ++ ']' :: rest) =
      (State.after (.array (before.reverse ++ items)) below).resume depth rest := by
  induction items generalizing before with
  | nil =>
      rw [List.append_nil]
      exact run_closeItems before below rest
  | cons v items ih =>
      have hstops := stops_continuation (items.map text) (rfl : isNumberChar ']' = false) rest
      have hv := h v List.mem_cons_self (.items before :: below) _ hroom hstops
      have hrest := ih (fun w hw => h w (List.mem_cons_of_mem v hw)) (v :: before)
      rw [List.reverse_cons, List.append_assoc, List.singleton_append] at hrest
      rw [List.map_cons, continuation, List.flatMap_cons, List.cons_append, List.cons_append,
        run_nextItem, List.append_assoc]
      exact hv.trans hrest

/-- The fields that follow the first ones of an object. -/
theorem run_fields {room : Nat} {fields : List (String × Json)}
    (h : ∀ field ∈ fields, ReadBack depth room field.2) (before : List (String × Json))
    (last : String) (below : List Frame) (hroom : below.length + 1 + room ≤ depth)
    (hnames : (Keyed.keys (before ++ fields)).Nodup) (rest : List Char) :
    run depth .separator (.fields before last :: below)
        (continuation (fields.map fieldText) ++ '\x7d' :: rest) =
      (State.after (.object (before ++ fields)) below).resume depth rest := by
  induction fields generalizing before last with
  | nil =>
      rw [List.append_nil]
      exact run_closeFields before last below rest
  | cons field fields ih =>
      have hstops := stops_continuation (fields.map fieldText)
        (rfl : isNumberChar '\x7d' = false) rest
      have hnew : field.1 ∉ Keyed.keys before := by
        rw [Keyed.keys_append] at hnames
        intro hmem
        exact (List.nodup_middle.mp hnames).notMem (List.mem_append_left _ hmem)
      have hv := h field List.mem_cons_self (.fields before field.1 :: below) _ hroom hstops
      have hrest := ih (fun other hother => h other (List.mem_cons_of_mem field hother))
        (before ++ [field]) "" (by simpa using hnames)
      rw [List.append_assoc, List.singleton_append] at hrest
      rw [List.map_cons, continuation, List.flatMap_cons, List.cons_append, List.cons_append,
        run_nextField, toList_fieldText, List.append_assoc, List.append_assoc, List.cons_append,
        run_name]
      rw [State.after, Frame.place, Keyed.insert_of_notMem hnew] at hv
      exact hv.trans hrest

theorem readBack_of_fits {room : Nat} {v : Json} (h : v.Fits room) (hexact : v.Exact) :
    ReadBack depth room v := by
  induction h with
  | null =>
      intro stack rest _ _
      have htext : Json.null.text.toList = ['n', 'u', 'l', 'l'] := rfl
      rw [htext]
      exact run_scalar rfl (by decide) (by decide) (by simp [readScalar, afterWord])
  | bool b =>
      intro stack rest _ _
      cases b with
      | true =>
          have htext : (Json.bool true).text.toList = ['t', 'r', 'u', 'e'] := rfl
          rw [htext]
          exact run_scalar rfl (by decide) (by decide) (by simp [readScalar, afterWord])
      | false =>
          have htext : (Json.bool false).text.toList = ['f', 'a', 'l', 's', 'e'] := rfl
          rw [htext]
          exact run_scalar rfl (by decide) (by decide) (by simp [readScalar, afterWord])
  | @number _ n hn =>
      intro stack rest _ hrest
      have hread := of_decide_eq_true (isExact_of_exact hn hexact)
      obtain ⟨c, more, htext, hc⟩ := exists_cons_of_readNumber hread
      obtain ⟨hblank, hbracket, hbrace, -, hquote, hnull, htrue, hfalse⟩ := not_isBlank_of_number hc
      have happend : readNumber (c :: (more ++ rest)) = some (n, rest) := by
        rw [← List.cons_append, ← htext, readNumber_append hrest, hread]
        rfl
      have hscalar : readScalar (c :: (more ++ rest)) = some (.number n, rest) := by
        rw [readScalar, happend]
        · rfl
        all_goals simpa
      rw [text, htext, List.cons_append]
      exact run_scalar hblank hbracket hbrace hscalar
  | string s =>
      intro stack rest _ _
      have hread := readString_escaped s rest
      have htext : (Json.string s).text.toList ++ rest =
          '"' :: (s.toList.flatMap escapeChar ++ '"' :: rest) := by
        simp [text, quote]
      rw [htext]
      exact run_scalar rfl (by decide) (by decide) (by simp [readScalar, hread])
  | @array room items hitems ih =>
      intro stack rest hroom hrest
      have hopen : stack.length < depth := by omega
      have hinside : stack.length + 1 + room ≤ depth := by omega
      rw [toList_text_array, List.cons_append, List.append_assoc, List.singleton_append,
        run_openItems hopen]
      cases items with
      | nil => exact (run_firstItem_close _ _).trans (run_closeItems [] stack rest)
      | cons v items =>
          have hback : ∀ w ∈ v :: items, ReadBack depth room w :=
            fun w hw => ih w hw (hexact.item hw)
          have hmem : v ∈ v :: items := List.mem_cons_self
          obtain ⟨c, more, htext, hblank, hclosing⟩ :=
            exists_cons_text (hitems v hmem) (hexact.item hmem)
          have hstops := stops_continuation (items.map text) (rfl : isNumberChar ']' = false) rest
          have hv := hback v hmem (.items [] :: stack) _ hinside hstops
          have hrest := run_items (fun w hw => hback w (List.mem_cons_of_mem v hw)) [v] stack
            hinside rest
          have hfirst : (skipBlanks (v.text.toList ++
              (continuation (items.map text) ++ ']' :: rest))).head? ≠ some ']' := by
            rw [htext, List.cons_append, skipBlanks_cons hblank]
            simpa using hclosing
          rw [List.map_cons, toList_intercalate_comma, List.append_assoc, run_firstItem hfirst]
          exact hv.trans hrest
  | @object room fields hnames hfields ih =>
      intro stack rest hroom hrest
      have hopen : stack.length < depth := by omega
      have hinside : stack.length + 1 + room ≤ depth := by omega
      rw [toList_text_object, List.cons_append, List.append_assoc, List.singleton_append,
        run_openFields hopen]
      cases fields with
      | nil => exact (run_firstName_close _ _).trans (run_closeFields [] "" stack rest)
      | cons field fields =>
          have hback : ∀ other ∈ field :: fields, ReadBack depth room other.2 :=
            fun other hother => ih other hother (hexact.field hother)
          have hstops := stops_continuation (fields.map fieldText)
            (rfl : isNumberChar '\x7d' = false) rest
          have hv := hback field List.mem_cons_self (.fields [] field.1 :: stack) _ hinside hstops
          have hrest := run_fields (fun other h => hback other (List.mem_cons_of_mem field h))
            [field] "" stack hinside hnames rest
          have hfirst : (skipBlanks ((quote field.1).toList ++ ':' :: (field.2.text.toList ++
              (continuation (fields.map fieldText) ++ '\x7d' :: rest)))).head? ≠ some '\x7d' := by
            have hquote : (quote field.1).toList =
                '"' :: (field.1.toList.flatMap escapeChar ++ ['"']) := by
              simp [quote]
            rw [hquote, List.cons_append, skipBlanks_cons rfl]
            simp
          rw [List.map_cons, toList_intercalate_comma, toList_fieldText, List.append_assoc,
            List.append_assoc, List.cons_append, run_firstName hfirst, run_name]
          exact hv.trans hrest

/-- A value that a text can stand for is read from its own text, if its doubles are. -/
theorem parse?_text {v : Json} (h : v.Fits depth) (hexact : v.Exact) :
    parse? v.text depth = some v := by
  have hback : ReadBack depth depth v := readBack_of_fits h hexact
  have hrun := hback [] [] (by simp) (stops_nil _)
  rw [List.append_nil] at hrun
  exact parse?_eq_some_iff.mpr ⟨[], hrun, rfl⟩

/-! ### Too many brackets -/

theorem run_brackets {goal : Goal} (hgoal : goal = .value ∨ goal = .firstItem) {stack : List Frame}
    {count : Nat} (hstack : stack.length ≤ depth) (hcount : depth < stack.length + count)
    (rest : List Char) : run depth goal stack (List.replicate count '[' ++ rest) = none := by
  induction count generalizing goal stack with
  | zero => omega
  | succ count ih =>
      rw [List.replicate_succ, List.cons_append]
      have hvalue : run depth goal stack ('[' :: (List.replicate count '[' ++ rest)) =
          run depth .value stack ('[' :: (List.replicate count '[' ++ rest)) := by
        rcases hgoal with rfl | rfl
        · rfl
        · apply run_firstItem
          rw [skipBlanks_cons rfl]
          exact ne_of_beq_false rfl
      rw [hvalue]
      by_cases hopen : stack.length < depth
      · rw [run_openItems hopen]
        apply ih (.inr rfl)
        · exact hopen
        · rw [List.length_cons]
          omega
      · have hstep : step depth .value stack ('[' :: (List.replicate count '[' ++ rest)) = none :=
          if_neg hopen
        rw [run_eq, skipBlanks_cons rfl, hstep]
        rfl

/-- A text that opens more lists than may be open at a time is refused. -/
theorem parse?_brackets {s : String} {count : Nat} {rest : List Char} (hcount : depth < count)
    (h : s.toList = List.replicate count '[' ++ rest) : parse? s depth = none := by
  have hrun : run depth .value [] s.toList = none := by
    rw [h]
    exact run_brackets (.inl rfl) (Nat.zero_le _) (by simpa using hcount) rest
  rw [parse?, read?, hrun]
  rfl

end PgCollections.Json
