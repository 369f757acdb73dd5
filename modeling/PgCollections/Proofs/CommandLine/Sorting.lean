import PgCollections.Proofs.CommandLine.DryRun
import PgCollections.Proofs.Sql.Selection

/-! # Sort terms on the command line

A sort term is written as its key, a colon and its direction, and sort terms are written with commas
between them.  Keys may contain colons, since a term is split at its last one
(`splitDirection_append`); without commas in the keys the terms are told apart
(`sortTerms_orderArgument`).  The main statement is `sort_terms_survive`: what is written is what
the statement sorts by. -/

namespace PgCollections

/-! ### Letters in either case -/

/-- The number of a letter's capital. -/
theorem toNat_toUpper (c : Char) :
    c.toUpper.toNat = if 97 ≤ c.toNat ∧ c.toNat ≤ 122 then c.toNat - 32 else c.toNat := by
  have hbounds : 'a'.val ≤ c.val ∧ c.val ≤ 'z'.val ↔ 97 ≤ c.toNat ∧ c.toNat ≤ 122 := Iff.rfl
  unfold Char.toUpper
  split
  case isTrue h =>
      have hsmall := hbounds.mp h
      have hdistance : ('A'.val - 'a'.val).toNat = 4294967264 := by decide
      rw [if_pos hsmall, ← Char.toNat_val, UInt32.toNat_add, hdistance, Char.toNat_val]
      omega
  case isFalse h => rw [if_neg (mt hbounds.mpr h)]

/-- The number of a capital's small letter. -/
theorem toNat_toLower (c : Char) :
    c.toLower.toNat = if 65 ≤ c.toNat ∧ c.toNat ≤ 90 then c.toNat + 32 else c.toNat := by
  have hbounds : 'A'.val ≤ c.val ∧ c.val ≤ 'Z'.val ↔ 65 ≤ c.toNat ∧ c.toNat ≤ 90 := Iff.rfl
  unfold Char.toLower
  split
  case isTrue h =>
      have hcapital := hbounds.mp h
      have hdistance : ('a'.val - 'A'.val).toNat = 32 := by decide
      rw [if_pos hcapital, ← Char.toNat_val, UInt32.toNat_add, hdistance, Char.toNat_val]
      omega
  case isFalse h => rw [if_neg (mt hbounds.mpr h)]

theorem toLower_toUpper (c : Char) : c.toUpper.toLower = c.toLower := by
  apply Char.toNat_inj.mp
  rw [toNat_toLower, toNat_toLower, toNat_toUpper]
  split_ifs <;> omega

theorem toUpper_toLower (c : Char) : c.toLower.toUpper = c.toUpper := by
  apply Char.toNat_inj.mp
  rw [toNat_toUpper, toNat_toUpper, toNat_toLower]
  split_ifs <;> omega

/-- The texts differ in nothing but the case of their letters. -/
def EqIgnoringCase (s t : String) : Prop :=
  s.toList.map Char.toLower = t.toList.map Char.toLower

namespace Direction

theorem ofKeyword?_eq_some_iff {keyword : String} {dir : Direction} :
    ofKeyword? keyword = some dir ↔ keyword = dir.keyword := by
  constructor
  · intro h
    have hfound := List.find?_some h
    exact (of_decide_eq_true hfound).symm
  · rintro rfl
    cases dir <;> rfl

/-- The keywords, in small letters. -/
theorem exists_eqIgnoringCase_iff {text : String} :
    (∃ dir : Direction, EqIgnoringCase text dir.keyword) ↔
      EqIgnoringCase text "asc" ∨ EqIgnoringCase text "desc" := by
  have hasc : EqIgnoringCase asc.keyword "asc" := by
    unfold EqIgnoringCase
    decide
  have hdesc : EqIgnoringCase desc.keyword "desc" := by
    unfold EqIgnoringCase
    decide
  constructor
  · rintro ⟨_ | _, hcase⟩
    · exact .inl (hcase.trans hasc)
    · exact .inr (hcase.trans hdesc)
  · rintro (hcase | hcase)
    · exact ⟨asc, hcase.trans hasc.symm⟩
    · exact ⟨desc, hcase.trans hdesc.symm⟩

/-- A text in capitals is a keyword if the text is one in any case. -/
theorem map_toUpper_eq_keyword_iff {text : String} {dir : Direction} :
    String.ofList (text.toList.map Char.toUpper) = dir.keyword ↔
      EqIgnoringCase text dir.keyword := by
  rw [← String.toList_inj, String.toList_ofList]
  constructor
  · intro h
    rw [EqIgnoringCase, ← h, List.map_map]
    exact List.map_congr_left fun c _ => (toLower_toUpper c).symm
  · intro h
    have hcapitals : (dir.keyword.toList.map Char.toLower).map Char.toUpper =
        dir.keyword.toList := by
      cases dir <;> decide
    rw [← hcapitals, ← h, List.map_map]
    exact List.map_congr_left fun c _ => (toUpper_toLower c).symm

end Direction

/-- What is written for a sort term. -/
def Order.argument (order : Order) : String := order.key ++ ":" ++ order.dir.keyword

namespace CommandLine

/-- What is written for sort terms. -/
def orderArgument (orders : List Order) : String := ",".intercalate (orders.map Order.argument)

/-! ### Commas -/

theorem splitCommas_eq (cs : List Char) : splitCommas cs = cs.splitOn ',' := by
  induction cs with
  | nil => rfl
  | cons c cs ih =>
      rw [List.splitOn_eq_splitOnP, List.splitOnP_cons_eq_if_modifyHead, ← List.splitOn_eq_splitOnP,
        ← ih, splitCommas]
      by_cases hc : c = ','
      · simp [hc]
      · have hne : splitCommas cs ≠ [] := by
          rw [ih]
          exact List.splitOn_ne_nil _ _
        obtain ⟨part, parts, hparts⟩ := List.exists_cons_of_ne_nil hne
        simp [hc, hparts]

theorem comma_notMem_argument {order : Order} (h : ',' ∉ order.key.toList) :
    ',' ∉ order.argument.toList := by
  have hdir : ',' ∉ order.dir.keyword.toList := by
    cases order.dir <;> decide
  simp [Order.argument, h, hdir]

/-- Terms with commas between them are split where they were joined. -/
theorem sortTerms_orderArgument {orders : List Order} (hne : orders ≠ [])
    (h : ∀ order ∈ orders, ',' ∉ order.key.toList) :
    sortTerms (orderArgument orders) = orders.map Order.argument := by
  have hparts : ∀ part ∈ (orders.map Order.argument).map String.toList, ',' ∉ part := by
    rw [List.map_map, List.forall_mem_map]
    exact fun order horder => comma_notMem_argument (h order horder)
  have hsplit := List.splitOn_intercalate ',' hparts (by simpa using hne)
  have htext : (orderArgument orders).toList =
      [','].intercalate ((orders.map Order.argument).map String.toList) :=
    String.toList_intercalate
  rw [sortTerms, splitCommas_eq, htext, hsplit, List.map_map]
  simp

/-! ### Colons -/

theorem splitDirection_of_notMem {cs : List Char} (h : ':' ∉ cs) :
    splitDirection cs = (cs, Direction.asc.keyword.toList) := by
  have hnone : cs.reverse.dropWhile (· != ':') = [] := by
    rw [List.dropWhile_eq_nil_iff]
    intro c hc
    refine bne_iff_ne.mpr ?_
    rintro rfl
    exact h (List.mem_reverse.mp hc)
  rw [splitDirection, hnone]

/-- A term is split at its last colon. -/
theorem splitDirection_append (key : List Char) {text : List Char} (h : ':' ∉ text) :
    splitDirection (key ++ ':' :: text) = (key, text) := by
  have hreverse : (key ++ ':' :: text).reverse = text.reverse ++ ':' :: key.reverse := by simp
  have hbehind : ∀ c ∈ text.reverse, (c != ':') = true := by
    intro c hc
    refine bne_iff_ne.mpr ?_
    rintro rfl
    exact h (List.mem_reverse.mp hc)
  have hcolon : ∀ c ∈ (':' :: key.reverse).head?, (c != ':') = false := by simp
  obtain ⟨htake, hdrop⟩ := Sql.span_run text.reverse hbehind hcolon
  rw [splitDirection, hreverse, htake, hdrop, List.reverse_reverse]
  simp

theorem exists_last_colon {cs : List Char} (h : ':' ∈ cs) :
    ∃ key text, cs = key ++ ':' :: text ∧ ':' ∉ text := by
  obtain ⟨front, back, hsplit, hfront⟩ := List.eq_append_cons_of_mem (List.mem_reverse.mpr h)
  refine ⟨back.reverse, front.reverse, ?_, by simpa using hfront⟩
  rw [← List.reverse_inj, hsplit]
  simp

theorem readOrder_of_splitDirection {term key text : String} {order : Order}
    (h : splitDirection term.toList = (key.toList, text.toList)) :
    readOrder term = .ok order ↔ order.key = key ∧ EqIgnoringCase text order.dir.keyword := by
  obtain ⟨name, dir⟩ := order
  unfold readOrder
  rw [h]
  dsimp only
  rw [String.ofList_toList]
  constructor
  · intro hread
    split at hread
    case h_1 found hfound =>
        obtain ⟨rfl, rfl⟩ := Order.mk.inj (Except.ok.inj hread)
        rw [Direction.ofKeyword?_eq_some_iff] at hfound
        exact ⟨rfl, Direction.map_toUpper_eq_keyword_iff.mp hfound⟩
    case h_2 => cases hread
  · rintro ⟨rfl, hcase⟩
    rw [Direction.ofKeyword?_eq_some_iff.mpr (Direction.map_toUpper_eq_keyword_iff.mpr hcase)]

/-- A term without a colon is sorted by as a whole; any other must have a direction behind its last
colon. -/
theorem readOrder_eq_ok_iff {term : String} {order : Order} :
    readOrder term = .ok order ↔ (':' ∉ term.toList ∧ order = ⟨term, .asc⟩) ∨
      ∃ text, term = order.key ++ ":" ++ text ∧ ':' ∉ text.toList ∧
        EqIgnoringCase text order.dir.keyword := by
  by_cases hcolon : ':' ∈ term.toList
  · obtain ⟨key, text, hsplit, htext⟩ := exists_last_colon hcolon
    have hsplitDirection : splitDirection term.toList =
        ((String.ofList key).toList, (String.ofList text).toList) := by
      rw [hsplit, splitDirection_append key htext, String.toList_ofList, String.toList_ofList]
    rw [readOrder_of_splitDirection hsplitDirection]
    constructor
    · rintro ⟨hkey, hcase⟩
      refine .inr ⟨String.ofList text, ?_, by simpa using htext, hcase⟩
      rw [hkey, ← String.toList_inj, hsplit]
      simp
    · rintro (⟨hnone, -⟩ | ⟨text', hterm, htext', hcase⟩)
      · exact absurd hcolon hnone
      · -- The term has one last colon.
        have hsplit' := splitDirection_append order.key.toList htext'
        have hterm' : order.key.toList ++ ':' :: text'.toList = term.toList := by
          simp [hterm]
        rw [hterm', hsplitDirection] at hsplit'
        obtain ⟨hkey, hdir⟩ := Prod.mk.inj hsplit'
        rw [String.toList_inj] at hkey hdir
        exact ⟨hkey.symm, hdir ▸ hcase⟩
  · have hsplitDirection := splitDirection_of_notMem hcolon
    rw [readOrder_of_splitDirection hsplitDirection]
    constructor
    · rintro ⟨hkey, hcase⟩
      refine .inl ⟨hcolon, ?_⟩
      obtain ⟨key, dir⟩ := order
      cases dir with
      | asc => rw [← hkey]
      | desc =>
          have hdiffer : ¬ EqIgnoringCase Direction.asc.keyword Direction.desc.keyword := by
            unfold EqIgnoringCase
            decide
          exact absurd hcase hdiffer
    · rintro (⟨-, rfl⟩ | ⟨text, hterm, -, -⟩)
      · exact ⟨rfl, rfl⟩
      · refine absurd ?_ hcolon
        simp [hterm]

theorem readOrder_argument (order : Order) : readOrder order.argument = .ok order := by
  have hdir : ':' ∉ order.dir.keyword.toList := by
    cases order.dir <;> decide
  exact readOrder_eq_ok_iff.mpr (.inr ⟨order.dir.keyword, rfl, hdir, rfl⟩)

/-- What is written for terms is read as the terms. -/
theorem mapM_readOrder_argument (orders : List Order) :
    (orders.map Order.argument).mapM readOrder = .ok orders := by
  rw [mapM_eq_ok_iff, List.forall₂_map_left_iff, List.forall₂_same]
  exact fun order _ => readOrder_argument order

/-! ### Arguments -/

theorem longName_order (text : String) :
    longName findSwitches ('o' :: ("rder=".toList ++ text.toList)) =
      ([.value "order" text], .nothing) := by
  have hattached : splitAtEquals ('o' :: ("rder=".toList ++ text.toList)) =
      ("order", some (String.ofList text.toList)) := rfl
  rw [longName, hattached, String.ofList_toList]
  rfl

/-- A value that is attached to the switch for sorting may be any text. -/
theorem scan_attached (text : String) (arguments : List String) :
    scan findSwitches false none (("--order=" ++ text) :: arguments) =
      let (items, ending) := scan findSwitches false none arguments
      (.value "order" text :: items, ending) := by
  have htext : ("--order=" ++ text).toList =
      '-' :: '-' :: 'o' :: ("rder=".toList ++ text.toList) := by
    simp
  rw [scan]
  simp only [htext, longName_order, List.singleton_append]

/-- As a word of its own the value must not look like a switch. -/
theorem scan_separate {text : String} (h : isValue text = true) (arguments : List String) :
    scan findSwitches false none ("--order" :: text :: arguments) =
      let (items, ending) := scan findSwitches false none arguments
      (.value "order" text :: items, ending) := by
  have hpending : scan findSwitches false none ("--order" :: text :: arguments) =
      scan findSwitches false (some "order") (text :: arguments) := rfl
  rw [hpending, scan]
  simp only [h, if_true]

/-- Sort terms are put before those that follow, and nothing else changes. -/
theorem findOf?_order {items : List Item} {table filter : String} {limit offset : Option Nat}
    {order : List String} (h : findOf? items = some (.find table filter limit offset order))
    (text : String) :
    findOf? (.value "order" text :: items) =
      some (.find table filter limit offset (sortTerms text ++ order)) := by
  have hwords : words (.value "order" text :: items) = words items := rfl
  have hfilter : values "filter" (.value "order" text :: items) = values "filter" items := rfl
  have hlimit : count? "limit" (.value "order" text :: items) = count? "limit" items := rfl
  have hoffset : count? "offset" (.value "order" text :: items) = count? "offset" items := rfl
  have horder : values "order" (.value "order" text :: items) = text :: values "order" items := rfl
  unfold findOf? at h ⊢
  rw [hwords, hfilter, hlimit, hoffset, horder, List.flatMap_cons]
  split at h
  case h_1 =>
      simp only [Option.bind_eq_bind, Option.bind_eq_some_iff, Option.pure_def, Option.some_inj,
        Command.find.injEq] at h ⊢
      obtain ⟨filter?, hfilter?, limit?, hlimit?, offset?, hoffset?, rfl, rfl, rfl, rfl, rfl⟩ := h
      exact ⟨filter?, hfilter?, limit?, hlimit?, offset?, hoffset?, rfl, rfl, rfl, rfl, rfl⟩
  case h_2 => cases h

theorem items?_eq_some_iff {switches : List Switch} {arguments : List String} {items : List Item} :
    items? switches arguments = some items ↔
      scan switches false none arguments = (items, .complete) := by
  unfold items?
  rcases scan switches false none arguments with ⟨found, ending⟩
  cases ending <;> simp

/-- Arguments with a value for sorting in front select the same, in another order. -/
theorem ofArguments?_order {arguments sorted : List String} {text table filter : String}
    {limit offset : Option Nat} {order : List String}
    (hscan : scan findSwitches false none sorted =
      let (items, ending) := scan findSwitches false none arguments
      (.value "order" text :: items, ending))
    (h : Command.ofArguments? "find" arguments = some (.find table filter limit offset order)) :
    Command.ofArguments? "find" sorted =
      some (.find table filter limit offset (sortTerms text ++ order)) := by
  obtain ⟨items, hitems, hfind⟩ := Option.bind_eq_some_iff.mp h
  have hsorted : items? findSwitches sorted = some (.value "order" text :: items) := by
    rw [items?_eq_some_iff] at hitems ⊢
    rw [hscan, hitems]
  exact Option.bind_eq_some_iff.mpr ⟨_, hsorted, findOf?_order hfind text⟩

/-! ### Statements -/

/-- The statement is built with the terms that were written. -/
theorem findStatement_argument (table filter : String) (limit offset : Option Nat)
    (orders : List Order) :
    findStatement table filter limit offset (orders.map Order.argument) =
      (readFilter filter).bind fun filter =>
        (Statement.select table filter ⟨limit, offset, orders⟩).mapError .database := by
  unfold findStatement
  rw [mapM_readOrder_argument]
  rfl

/-- Sort terms whose keys have no commas are the ones that a selection sorts by, in order, if they
are written with commas between them: behind `--order=`, or behind `--order` if they do not look
like a switch.  A single term is read if and only if it has no colon, and is then sorted by as a
whole, or a direction in any case stands behind its last colon. -/
theorem sort_terms_survive :
    (∀ orders : List Order, orders ≠ [] → (∀ order ∈ orders, ',' ∉ order.key.toList) →
      let terms := sortTerms (orderArgument orders)
      terms.mapM readOrder = .ok orders ∧
      (∀ arguments table filter limit offset,
        Command.ofArguments? "find" arguments = some (.find table filter limit offset []) →
        Command.ofArguments? "find" (("--order=" ++ orderArgument orders) :: arguments) =
            some (.find table filter limit offset terms) ∧
          (isValue (orderArgument orders) = true →
            Command.ofArguments? "find" ("--order" :: orderArgument orders :: arguments) =
              some (.find table filter limit offset terms))) ∧
      (∀ table filter limit offset, findStatement table filter limit offset terms =
        (readFilter filter).bind fun filter =>
          (Statement.select table filter ⟨limit, offset, orders⟩).mapError .database) ∧
      ∀ table filter limit offset s, findStatement table filter limit offset terms = .ok s →
        (Selection.read? s).map Selection.order = some orders) ∧
    (∀ term order, readOrder term = .ok order ↔ (':' ∉ term.toList ∧ order = ⟨term, .asc⟩) ∨
      ∃ text, term = order.key ++ ":" ++ text ∧ ':' ∉ text.toList ∧
        EqIgnoringCase text order.dir.keyword) ∧
    ∀ term, (∃ order, readOrder term = .ok order) ↔ ':' ∉ term.toList ∨
      ∃ key text, term = key ++ ":" ++ text ∧ ':' ∉ text.toList ∧
        (EqIgnoringCase text "asc" ∨ EqIgnoringCase text "desc") := by
  refine ⟨fun orders hne hcommas => ?_, fun term order => readOrder_eq_ok_iff, fun term => ?_⟩
  · intro terms
    have hterms : terms = orders.map Order.argument := sortTerms_orderArgument hne hcommas
    rw [hterms]
    refine ⟨mapM_readOrder_argument orders, ?_, ?_, ?_⟩
    · intro arguments table filter limit offset h
      rw [← hterms, ← List.append_nil terms]
      exact ⟨ofArguments?_order (scan_attached _ _) h,
        fun hvalue => ofArguments?_order (scan_separate hvalue _) h⟩
    · exact fun table filter limit offset => findStatement_argument table filter limit offset orders
    · intro table filter limit offset s h
      obtain ⟨read, order, -, hread, hselect⟩ := findStatement_eq_ok_iff.mp h
      rw [mapM_readOrder_argument] at hread
      obtain rfl := Except.ok.inj hread
      rw [Selection.read?_select hselect]
      rfl
  · constructor
    · rintro ⟨order, h⟩
      obtain ⟨hcolon, -⟩ | ⟨text, hterm, htext, hcase⟩ := readOrder_eq_ok_iff.mp h
      · exact .inl hcolon
      · have hdirection := Direction.exists_eqIgnoringCase_iff.mp ⟨order.dir, hcase⟩
        exact .inr ⟨order.key, text, hterm, htext, hdirection⟩
    · rintro (hcolon | ⟨key, text, hterm, htext, hcase⟩)
      · exact ⟨⟨term, .asc⟩, readOrder_eq_ok_iff.mpr (.inl ⟨hcolon, rfl⟩)⟩
      · obtain ⟨dir, hdirection⟩ := Direction.exists_eqIgnoringCase_iff.mpr hcase
        exact ⟨⟨key, dir⟩, readOrder_eq_ok_iff.mpr (.inr ⟨text, hterm, htext, hdirection⟩)⟩

/-- Keys that are empty, or look like terms with a direction. -/
def colonOrders : List Order := [⟨"a:DESC", .asc⟩, ⟨"", .desc⟩, ⟨"b:c", .asc⟩]

theorem sort_terms_survive_colonOrders :
    let text := "a:DESC:ASC,:DESC,b:c:ASC"
    let command : Command := .find "t" emptyFilter none none ["a:DESC:ASC", ":DESC", "b:c:ASC"]
    (colonOrders ≠ [] ∧ (∀ order ∈ colonOrders, ',' ∉ order.key.toList) ∧ isValue text = true) ∧
      Command.ofArguments? "find" ["--order=a:DESC:ASC,:DESC,b:c:ASC", "t"] = some command ∧
      Command.ofArguments? "find" ["--order", text, "t"] = some command ∧
      ∃ s, findStatement "t" emptyFilter none none ["a:DESC:ASC", ":DESC", "b:c:ASC"] = .ok s ∧
        s.sql = "SELECT * FROM \"t\" ORDER BY \"a:DESC\" ASC, \"\" DESC, \"b:c\" ASC" ∧
        (Selection.read? s).map Selection.order = some colonOrders := by
  intro text command
  have hne : colonOrders ≠ [] := by decide
  have hcommas : ∀ order ∈ colonOrders, ',' ∉ order.key.toList := by decide
  have hvalue : isValue text = true := by decide
  have htext : orderArgument colonOrders = text := by decide +kernel
  have hterms : sortTerms text = ["a:DESC:ASC", ":DESC", "b:c:ASC"] := by decide +kernel
  obtain ⟨hsurvive, -, -⟩ := sort_terms_survive
  obtain ⟨-, harguments, -, hselects⟩ := hsurvive colonOrders hne hcommas
  rw [htext, hterms] at harguments hselects
  have hplain : Command.ofArguments? "find" ["t"] = some (.find "t" emptyFilter none none []) := rfl
  obtain ⟨hattached, hseparate⟩ := harguments ["t"] "t" emptyFilter none none hplain
  have hsql : (findStatement "t" emptyFilter none none
      ["a:DESC:ASC", ":DESC", "b:c:ASC"]).toOption.map Statement.sql =
        some "SELECT * FROM \"t\" ORDER BY \"a:DESC\" ASC, \"\" DESC, \"b:c\" ASC" := by
    decide +kernel
  refine ⟨⟨hne, hcommas, hvalue⟩, hattached, hseparate hvalue, ?_⟩
  cases hfind : findStatement "t" emptyFilter none none ["a:DESC:ASC", ":DESC", "b:c:ASC"] with
  | error e =>
      rw [hfind] at hsql
      cases hsql
  | ok s =>
      rw [hfind] at hsql
      exact ⟨s, rfl, Option.some.inj hsql, hselects "t" emptyFilter none none s hfind⟩

end CommandLine

end PgCollections
