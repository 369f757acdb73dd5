import PgCollections.Postgres.Gateway
import PgCollections.Proofs.Number.Text
import PgCollections.Proofs.Traversal

/-! # When a statement is executed

`PgGateway.course` is what running a statement gives, together with what the server was asked to
execute on the way.  `PgGateway.course_eq` follows the way to its end: a connection, a description,
the count of the parameters, their conversion, and only then the execution.  What the conversion of
all parameters gives is said place by place (`Argument.ofValues_eq_ok_iff`), and the first place
that fails decides the error (`Argument.ofValues_eq_error`).  What the server answers is said of the
rows (`Row.holds_ofCells`) and of the count (`Completion.affected_eq`).  The main statement is
`PgGateway.executes_iff_prepared`. -/

namespace PgCollections

open Scan

/-- What a server is asked to execute. -/
structure Execution where
  sql : String
  arguments : List Argument

namespace Server

variable {τ : Type}

/-- A request to a server beside a list of executions. -/
def besideExecutions {α : Type} (r : Request τ α) : Request (τ × List Execution) α :=
  fun (state, executions) =>
    let (answer, state) := r state
    (answer, state, executions)

/-- A server that keeps what it is asked to execute. -/
def watched (server : Server τ) : Server (τ × List Execution) where
  connect settings := besideExecutions (server.connect settings)
  acquire := besideExecutions server.acquire
  describe sql := besideExecutions (server.describe sql)
  execute sql arguments := fun (state, executions) =>
    besideExecutions (server.execute sql arguments) (state, executions ++ [⟨sql, arguments⟩])
  close := fun (state, executions) => ((), (server.close state).2, executions)

/-- The server gives out a connection and describes the statement, and is then ready to execute
it. -/
def Describes (server : Server τ) (sql : String) (start : τ) (description : Description)
    (ready : τ) : Prop :=
  ∃ acquired, server.acquire start = (.ok (), acquired) ∧
    server.describe sql acquired = (.ok description, ready)

end Server

/-- There is a placeholder for each value, and the values convert to their types. -/
def Description.Accepts (description : Description) (values : List Json) : Prop :=
  description.parameters.length = values.length ∧
    ∀ (i : Nat) (type : PgType) (v : Json), description.parameters[i]? = some type →
      values[i]? = some v → ∃ datum, type.convert v = .ok datum

/-! ### Arguments -/

namespace Argument

/-- The argument for a placeholder and its value. -/
def ofPair (pair : PgType × Json) : Except PgError Argument :=
  (pair.1.convert pair.2).map (ofDatum pair.1)

theorem ofPair_eq_ok_iff {type : PgType} {v : Json} {argument : Argument} :
    ofPair (type, v) = .ok argument ↔
      ∃ datum, type.convert v = .ok datum ∧ argument = ofDatum type datum := by
  unfold ofPair
  cases type.convert v <;> simp [Except.map, eq_comm]

theorem ofValues_eq_mapM (types : List PgType) (values : List Json) :
    ofValues types values = (types.zip values).mapM ofPair := by
  induction types generalizing values with
  | nil => rfl
  | cons type types ih => cases values with
    | nil => rfl
    | cons v values =>
        rw [ofValues, List.zip_cons_cons, List.mapM_cons, ih, ofPair]
        cases type.convert v <;> rfl

/-- The arguments are the conversions of the values, place by place. -/
theorem ofValues_eq_ok_iff {types : List PgType} {values : List Json} {arguments : List Argument}
    (h : types.length = values.length) : ofValues types values = .ok arguments ↔
      arguments.length = values.length ∧
        ∀ (i : Nat) (type : PgType) (v : Json), types[i]? = some type → values[i]? = some v →
          ∃ datum, type.convert v = .ok datum ∧ arguments[i]? = some (ofDatum type datum) := by
  have hlength : (types.zip values).length = values.length := by
    rw [List.length_zip, h, Nat.min_self]
  rw [ofValues_eq_mapM, mapM_eq_ok_iff, List.forall₂_iff_get]
  constructor
  · rintro ⟨hcount, hplaces⟩
    refine ⟨hcount.symm.trans hlength, fun i type v htype hv => ?_⟩
    have hpair : (types.zip values)[i]? = some (type, v) :=
      List.getElem?_zip_eq_some.mpr ⟨htype, hv⟩
    obtain ⟨hi, hpair⟩ := List.getElem?_eq_some_iff.mp hpair
    have hi' : i < arguments.length := hcount ▸ hi
    have hplace := hplaces i hi hi'
    rw [List.get_eq_getElem, hpair] at hplace
    obtain ⟨datum, hdatum, hargument⟩ := ofPair_eq_ok_iff.mp hplace
    exact ⟨datum, hdatum, List.getElem?_eq_some_iff.mpr ⟨hi', hargument⟩⟩
  · rintro ⟨hcount, hplaces⟩
    refine ⟨hlength.trans hcount.symm, fun i hi hi' => ?_⟩
    have hpair := List.getElem?_eq_getElem hi
    obtain ⟨htype, hv⟩ := List.getElem?_zip_eq_some.mp hpair
    obtain ⟨datum, hdatum, hargument⟩ := hplaces i _ _ htype hv
    exact ofPair_eq_ok_iff.mpr ⟨datum, hdatum, (List.getElem?_eq_some_iff.mp hargument).2⟩

/-- There are arguments if and only if every value converts. -/
theorem exists_ofValues_iff (types : List PgType) (values : List Json) :
    (∃ arguments, ofValues types values = .ok arguments) ↔
      ∀ (i : Nat) (type : PgType) (v : Json), types[i]? = some type → values[i]? = some v →
        ∃ datum, type.convert v = .ok datum := by
  simp only [ofValues_eq_mapM, mapM_eq_ok_iff, exists_forall₂_iff]
  constructor
  · intro hall i type v htype hv
    have hpair : (types.zip values)[i]? = some (type, v) :=
      List.getElem?_zip_eq_some.mpr ⟨htype, hv⟩
    obtain ⟨argument, hargument⟩ := hall (type, v) (List.mem_of_getElem? hpair)
    obtain ⟨datum, hdatum, -⟩ := ofPair_eq_ok_iff.mp hargument
    exact ⟨datum, hdatum⟩
  · rintro hplaces ⟨type, v⟩ hpair
    obtain ⟨i, hi⟩ := List.getElem?_of_mem hpair
    obtain ⟨htype, hv⟩ := List.getElem?_zip_eq_some.mp hi
    obtain ⟨datum, hdatum⟩ := hplaces i type v htype hv
    exact ⟨_, ofPair_eq_ok_iff.mpr ⟨datum, hdatum, rfl⟩⟩

/-- The first value that does not convert decides the error. -/
theorem ofValues_eq_error {types : List PgType} {values : List Json} {i : Nat} {type : PgType}
    {v : Json} {e : PgError}
    (hbefore : ∀ j < i, ∀ (t : PgType) (w : Json), types[j]? = some t → values[j]? = some w →
      ∃ datum, t.convert w = .ok datum)
    (htype : types[i]? = some type) (hv : values[i]? = some v) (he : type.convert v = .error e) :
    ofValues types values = .error e := by
  induction types generalizing values i with
  | nil => cases htype
  | cons t types ih => cases values with
    | nil => cases hv
    | cons w values => cases i with
      | zero =>
          obtain rfl := Option.some.inj htype
          obtain rfl := Option.some.inj hv
          rw [ofValues, he]
          rfl
      | succ i =>
          obtain ⟨datum, hdatum⟩ := hbefore 0 (Nat.succ_pos i) t w rfl rfl
          have hrest := ih (fun j hj => hbefore (j + 1) (Nat.succ_lt_succ hj)) htype hv
          rw [ofValues, hdatum, hrest]
          rfl

end Argument

/-! ### Answers -/

namespace Row

variable (bigIntAsNumber : Bool) (columns : List (String × PgType)) (cells : List (Option Bytes))

/-- A row that holds cells under columns: its names are those of the columns, in the order of their
first places, and the value of a name is the cell of the last column of this name. -/
structure Holds (row : Row) : Prop where
  keys_eq : Keyed.keys row = ((columns.zip cells).map (·.1.1)).eraseDups
  get?_eq_some_iff : ∀ name v, Keyed.get? row name = some v ↔
    ∃ front type bytes back, columns.zip cells = front ++ ((name, type), bytes) :: back ∧
      (∀ later ∈ back, later.1.1 ≠ name) ∧ v = type.cell bigIntAsNumber bytes

theorem holds_ofCells :
    Holds bigIntAsNumber columns cells (ofCells bigIntAsNumber columns cells) := by
  constructor
  · rw [ofCells, Keyed.keys_ofList, Keyed.keys, List.map_map]
    rfl
  · intro name v
    rw [ofCells, Keyed.get?_ofList_eq_some_iff]
    constructor
    · rintro ⟨front, back, hpairs, hback⟩
      obtain ⟨front', rest, hzip, -, hrest⟩ := List.map_eq_append_iff.mp hpairs
      obtain ⟨⟨⟨column, type⟩, bytes⟩, back', rfl, hpair, rfl⟩ := List.map_eq_cons_iff.mp hrest
      obtain ⟨rfl, rfl⟩ := Prod.mk.inj hpair
      refine ⟨front', type, bytes, back', hzip, ?_, rfl⟩
      exact fun later hlater => hback _ (List.mem_map_of_mem hlater)
    · rintro ⟨front, type, bytes, back, hzip, hback, rfl⟩
      refine ⟨_, _, by rw [hzip, List.map_append, List.map_cons], ?_⟩
      exact List.forall_mem_map.mpr hback

end Row

/-- The number that a command tag ends with is the count. -/
theorem Completion.affected_eq {completion : Completion} {word : String} {n : Nat}
    (htag : completion.tag = word ++ " " ++ toString n) (h : n < Nat.pow 2 64) :
    completion.affected = n := by
  have hcharacters : completion.tag.toList = word.toList ++ ' ' :: (toString n).toList := by
    rw [htag]
    simp
  have hblank : ' ' ∈ completion.tag.toList := by
    rw [hcharacters]
    simp
  -- From its end on, the tag is digits up to the last blank.
  have hreverse : completion.tag.toList.reverse =
      (toString n).toList.reverse ++ ' ' :: word.toList.reverse := by
    rw [hcharacters]
    simp
  have hdigits : ∀ c ∈ (toString n).toList.reverse, (c != ' ') = true := by
    intro c hc
    apply bne_iff_ne.mpr
    rintro rfl
    have hspace := isSpace_of_mem_toString (n := (n : Int)) (List.mem_reverse.mp hc)
    cases hspace
  have hword : (completion.tag.toList.reverse.takeWhile (· != ' ')).reverse =
      (toString n).toList := by
    rw [hreverse, takeWhile_append hdigits (stops_cons rfl _), List.reverse_reverse]
  have hread : scanInt.run (toString n).toList = some ((n : Int), []) := by
    have hreads := reads_scanInt (n : Int) (stops_nil Char.isDigit)
    rw [Reads, List.append_nil] at hreads
    exact hreads
  unfold affected
  dsimp only
  rw [hword, hread]
  exact if_pos ⟨hblank, h⟩

/-- Rows are given if the statement has columns, each with its cells. -/
theorem Completion.result_of_columns (completion : Completion) (bigIntAsNumber : Bool)
    {columns : List (String × PgType)} (h : columns ≠ []) :
    ∃ rows, completion.result bigIntAsNumber columns = ⟨rows, completion.rows.length⟩ ∧
      List.Forall₂ (Row.Holds bigIntAsNumber columns) completion.rows rows := by
  refine ⟨_, if_neg (mt List.isEmpty_iff.mp h), ?_⟩
  rw [List.forall₂_map_right_iff, List.forall₂_same]
  exact fun cells _ => Row.holds_ofCells bigIntAsNumber columns cells

/-- The count is given if it has none. -/
theorem Completion.result_nil (completion : Completion) (bigIntAsNumber : Bool) :
    completion.result bigIntAsNumber [] = ⟨[], completion.affected⟩ := rfl

/-! ### The course of a statement -/

/-- A failure ends an activity; a success is handed on with the state that it left. -/
theorem ExceptT.run_seq {ε σ α β : Type} (x : ExceptT ε (StateM σ) α)
    (f : α → ExceptT ε (StateM σ) β) (s : σ) : (x >>= f).run s =
      match x.run s with
      | (.ok a, s) => (f a).run s
      | (.error e, s) => (.error e, s) := by
  simp only [ExceptT.run, Bind.bind, ExceptT.bind, ExceptT.mk, StateT.bind, ExceptT.bindCont]
  cases x s with
  | mk result after => cases result <;> rfl

namespace PgGateway

variable {τ : Type} (gateway : PgGateway τ) (statement : Statement) (start : τ)

/-- A statement is described before its parameters are counted and converted, and executed only
then. -/
theorem run_eq : (gateway.run statement).run start =
    match gateway.server.acquire start with
    | (.error e, refused) => (.error (.driver e), refused)
    | (.ok _, acquired) =>
      match gateway.server.describe statement.sql acquired with
      | (.error e, refused) => (.error (.driver e), refused)
      | (.ok description, ready) =>
        if statement.params.length ≠ description.parameters.length then
          (.error (.countMismatch statement.params.length description.parameters.length), ready)
        else
          match Argument.ofValues description.parameters statement.params with
          | .error e => (.error e, ready)
          | .ok arguments =>
            let (answer, final) := gateway.server.execute statement.sql arguments ready
            ((answer.map (·.result gateway.bigIntAsNumber description.columns)).mapError .driver,
              final) := by
  have hrequest : ∀ {α : Type} (r : Request τ α) (s : τ),
      (request r).run s = ((r s).1.mapError PgError.driver, (r s).2) := fun _ _ => rfl
  have hconverted : ∀ (x : Except PgError (List Argument)) (s : τ),
      (ExceptT.mk (pure x) : ExceptT PgError (StateM τ) (List Argument)).run s = (x, s) :=
    fun _ _ => rfl
  rw [run, ExceptT.run_seq, hrequest]
  rcases gateway.server.acquire start with ⟨_ | _, acquired⟩
  · rfl
  dsimp only [Except.mapError]
  rw [ExceptT.run_seq, hrequest]
  rcases gateway.server.describe statement.sql acquired with ⟨_ | description, ready⟩
  · rfl
  dsimp only [Except.mapError]
  split
  · rfl
  rw [ExceptT.run_seq, hconverted]
  cases Argument.ofValues description.parameters statement.params with
  | error e => rfl
  | ok arguments =>
      dsimp only
      rw [ExceptT.run_seq, hrequest]
      rcases gateway.server.execute statement.sql arguments ready with
        ⟨_ | completion, final⟩ <;> rfl

/-- What running a statement gives, the state in which the server is left, and what was executed. -/
structure Course (τ : Type) where
  result : Except BackendError QueryResult
  final : τ
  executions : List Execution

/-- Runs a statement on the same server, which now keeps what it is asked to execute. -/
def course : Course τ :=
  let watched : PgGateway (τ × List Execution) :=
    ⟨gateway.server.watched, gateway.target, gateway.bigIntAsNumber, gateway.hasHandler⟩
  let (result, final, executions) := (watched.run statement).run (start, [])
  ⟨result.mapError PgError.toBackend, final, executions⟩

/-- Watching what is executed changes neither the result nor the server. -/
theorem course_unwatched :
    (gateway.course statement start).result =
        ((gateway.run statement).run start).1.mapError PgError.toBackend ∧
      (gateway.course statement start).final = ((gateway.run statement).run start).2 := by
  rw [course, run_eq, run_eq]
  dsimp only [Server.watched, Server.besideExecutions]
  rcases gateway.server.acquire start with ⟨_ | _, acquired⟩
  · exact ⟨rfl, rfl⟩
  dsimp only
  rcases gateway.server.describe statement.sql acquired with ⟨_ | description, ready⟩
  · exact ⟨rfl, rfl⟩
  dsimp only
  by_cases hcount : statement.params.length ≠ description.parameters.length
  · rw [if_pos hcount, if_pos hcount]
    exact ⟨rfl, rfl⟩
  rw [if_neg hcount, if_neg hcount]
  cases Argument.ofValues description.parameters statement.params with
  | error e => exact ⟨rfl, rfl⟩
  | ok arguments =>
      dsimp only
      rcases gateway.server.execute statement.sql arguments ready with ⟨_ | completion, final⟩ <;>
        exact ⟨rfl, rfl⟩

variable {gateway statement start}

theorem course_of_refused {e : DriverError} {refused : τ}
    (h : gateway.server.acquire start = (.error e, refused)) :
    gateway.course statement start = ⟨.error (.ofDriver e), refused, []⟩ := by
  rw [course, run_eq]
  simp only [Server.watched, Server.besideExecutions, h]
  rfl

theorem course_of_undescribed {e : DriverError} {acquired refused : τ}
    (hacquire : gateway.server.acquire start = (.ok (), acquired))
    (h : gateway.server.describe statement.sql acquired = (.error e, refused)) :
    gateway.course statement start = ⟨.error (.ofDriver e), refused, []⟩ := by
  rw [course, run_eq]
  simp only [Server.watched, Server.besideExecutions, hacquire, h]
  rfl

variable {description : Description} {ready : τ}

theorem course_of_miscounted
    (hready : gateway.server.Describes statement.sql start description ready)
    (h : description.parameters.length ≠ statement.params.length) :
    gateway.course statement start =
      ⟨.error (PgError.countMismatch statement.params.length
        description.parameters.length).toBackend, ready, []⟩ := by
  obtain ⟨acquired, hacquire, hdescribe⟩ := hready
  rw [course, run_eq]
  simp only [Server.watched, Server.besideExecutions, hacquire, hdescribe, if_pos h.symm]
  rfl

theorem course_of_unconverted
    (hready : gateway.server.Describes statement.sql start description ready)
    (hcount : description.parameters.length = statement.params.length) {e : PgError}
    (h : Argument.ofValues description.parameters statement.params = .error e) :
    gateway.course statement start = ⟨.error e.toBackend, ready, []⟩ := by
  obtain ⟨acquired, hacquire, hdescribe⟩ := hready
  rw [course, run_eq]
  simp only [Server.watched, Server.besideExecutions, hacquire, hdescribe,
    if_neg (not_not_intro hcount.symm), h]
  rfl

theorem course_of_converted
    (hready : gateway.server.Describes statement.sql start description ready)
    (hcount : description.parameters.length = statement.params.length) {arguments : List Argument}
    (h : Argument.ofValues description.parameters statement.params = .ok arguments) :
    gateway.course statement start =
      let answer := gateway.server.execute statement.sql arguments ready
      ⟨(answer.1.map (·.result gateway.bigIntAsNumber description.columns)).mapError .ofDriver,
        answer.2, [⟨statement.sql, arguments⟩]⟩ := by
  obtain ⟨acquired, hacquire, hdescribe⟩ := hready
  rw [course, run_eq]
  simp only [Server.watched, Server.besideExecutions, hacquire, hdescribe,
    if_neg (not_not_intro hcount.symm), h]
  rcases gateway.server.execute statement.sql arguments ready with ⟨_ | completion, final⟩ <;> rfl

/-- A statement that is accepted is executed once, with the conversions of its values. -/
theorem course_of_accepted
    (hready : gateway.server.Describes statement.sql start description ready)
    (h : description.Accepts statement.params) :
    ∃ arguments, arguments.length = statement.params.length ∧
      (∀ (i : Nat) (type : PgType) (v : Json), description.parameters[i]? = some type →
        statement.params[i]? = some v → ∃ datum, type.convert v = .ok datum ∧
          arguments[i]? = some (.ofDatum type datum)) ∧
      gateway.course statement start =
        let answer := gateway.server.execute statement.sql arguments ready
        ⟨(answer.1.map (·.result gateway.bigIntAsNumber description.columns)).mapError .ofDriver,
          answer.2, [⟨statement.sql, arguments⟩]⟩ := by
  obtain ⟨hcount, hconvert⟩ := h
  obtain ⟨arguments, hvalues⟩ := (Argument.exists_ofValues_iff _ _).mpr hconvert
  obtain ⟨hlength, hplaces⟩ := (Argument.ofValues_eq_ok_iff hcount).mp hvalues
  exact ⟨arguments, hlength, hplaces, course_of_converted hready hcount hvalues⟩

/-! ### The ways of a statement -/

/-- How far a statement gets. -/
inductive Way (server : Server τ) (statement : Statement) (start : τ) : Prop where
  | refused {e : DriverError} {refused : τ} (h : server.acquire start = (.error e, refused))
  | undescribed {e : DriverError} {acquired refused : τ}
    (hacquire : server.acquire start = (.ok (), acquired))
    (h : server.describe statement.sql acquired = (.error e, refused))
  | miscounted {description : Description} {ready : τ}
    (hready : server.Describes statement.sql start description ready)
    (h : description.parameters.length ≠ statement.params.length)
  | unconverted {description : Description} {ready : τ}
    (hready : server.Describes statement.sql start description ready)
    (hcount : description.parameters.length = statement.params.length) {e : PgError}
    (h : Argument.ofValues description.parameters statement.params = .error e)
  | converted {description : Description} {ready : τ}
    (hready : server.Describes statement.sql start description ready)
    (hcount : description.parameters.length = statement.params.length) {arguments : List Argument}
    (h : Argument.ofValues description.parameters statement.params = .ok arguments)

theorem way (server : Server τ) (statement : Statement) (start : τ) :
    Way server statement start := by
  rcases hacquire : server.acquire start with ⟨_ | _, acquired⟩
  · exact .refused hacquire
  rcases hdescribe : server.describe statement.sql acquired with ⟨_ | description, ready⟩
  · exact .undescribed hacquire hdescribe
  have hready : server.Describes statement.sql start description ready :=
    ⟨acquired, hacquire, hdescribe⟩
  by_cases hcount : description.parameters.length = statement.params.length
  · cases hvalues : Argument.ofValues description.parameters statement.params with
    | error e => exact .unconverted hready hcount hvalues
    | ok arguments => exact .converted hready hcount hvalues
  · exact .miscounted hready hcount

/-- Something is executed only after a description that accepts the values. -/
theorem exists_accepts_of_executions (h : (gateway.course statement start).executions ≠ []) :
    ∃ description ready, gateway.server.Describes statement.sql start description ready ∧
      description.Accepts statement.params := by
  cases way gateway.server statement start with
  | refused hrefused =>
      rw [course_of_refused hrefused] at h
      exact absurd rfl h
  | undescribed hacquire hrefused =>
      rw [course_of_undescribed hacquire hrefused] at h
      exact absurd rfl h
  | miscounted hready hcount =>
      rw [course_of_miscounted hready hcount] at h
      exact absurd rfl h
  | unconverted hready hcount hvalues =>
      rw [course_of_unconverted hready hcount hvalues] at h
      exact absurd rfl h
  | @converted description ready hready hcount arguments hvalues =>
      have hconvert := (Argument.exists_ofValues_iff _ _).mp ⟨arguments, hvalues⟩
      exact ⟨description, ready, hready, hcount, hconvert⟩

/-- A statement is executed if and only if a connection is given out, the statement is described,
and there are as many placeholders as values and every value converts.  It is then executed once,
with the conversions of the values at their places, and the result is what the server answers: if
the statement has columns, its rows in order, with their cells under the names of the columns, and
their number, and if not, the count.  Otherwise nothing is executed, and the error is the refusal of
the server, the wrong count whatever the values are, or that of the first value that does not
convert. -/
theorem executes_iff_prepared (gateway : PgGateway τ) (statement : Statement) (start : τ) :
    let server := gateway.server
    let values := statement.params
    let course := gateway.course statement start
    (course.result = ((gateway.run statement).run start).1.mapError PgError.toBackend ∧
      course.final = ((gateway.run statement).run start).2) ∧
    (course.executions ≠ [] ↔ ∃ description ready,
      server.Describes statement.sql start description ready ∧ description.Accepts values) ∧
    (∀ description ready, server.Describes statement.sql start description ready →
      description.Accepts values →
      ∃ arguments, course.executions = [⟨statement.sql, arguments⟩] ∧
        arguments.length = values.length ∧
        (∀ (i : Nat) (type : PgType) (v : Json), description.parameters[i]? = some type →
          values[i]? = some v → ∃ datum, type.convert v = .ok datum ∧
            arguments[i]? = some (.ofDatum type datum)) ∧
        (∀ e final, server.execute statement.sql arguments ready = (.error e, final) →
          course.result = .error (.ofDriver e)) ∧
        (∀ completion final,
          server.execute statement.sql arguments ready = (.ok completion, final) →
          (description.columns = [] → course.result = .ok ⟨[], completion.affected⟩ ∧
            ∀ (word : String) (n : Nat), completion.tag = word ++ " " ++ toString n →
              n < Nat.pow 2 64 → completion.affected = n) ∧
          (description.columns ≠ [] → ∃ rows,
            course.result = .ok ⟨rows, completion.rows.length⟩ ∧
            List.Forall₂ (Row.Holds gateway.bigIntAsNumber description.columns)
              completion.rows rows))) ∧
    (∀ e refused, server.acquire start = (.error e, refused) →
      course.executions = [] ∧ course.result = .error (.ofDriver e)) ∧
    (∀ acquired e refused, server.acquire start = (.ok (), acquired) →
      server.describe statement.sql acquired = (.error e, refused) →
      course.executions = [] ∧ course.result = .error (.ofDriver e)) ∧
    (∀ description ready, server.Describes statement.sql start description ready →
      description.parameters.length ≠ values.length →
      course.executions = [] ∧ ∃ e, course.result = .error e ∧ e.code = some "08P01") ∧
    (∀ description ready (i : Nat) (type : PgType) (v : Json) (e : PgError),
      server.Describes statement.sql start description ready →
      description.parameters.length = values.length →
      description.parameters[i]? = some type → values[i]? = some v → type.convert v = .error e →
      (∀ j < i, ∀ (t : PgType) (w : Json), description.parameters[j]? = some t →
        values[j]? = some w → ∃ datum, t.convert w = .ok datum) →
      course.executions = [] ∧ course.result = .error e.toBackend) := by
  intro server values course
  refine ⟨course_unwatched gateway statement start, ⟨exists_accepts_of_executions, ?_⟩, ?_, ?_, ?_,
    ?_, ?_⟩
  · rintro ⟨description, ready, hready, haccepts⟩
    obtain ⟨arguments, -, -, hcourse⟩ := course_of_accepted hready haccepts
    rw [show course = _ from hcourse]
    exact List.cons_ne_nil _ _
  · intro description ready hready haccepts
    obtain ⟨arguments, hlength, hplaces, haccepted⟩ := course_of_accepted hready haccepts
    have hcourse : course = _ := haccepted
    refine ⟨arguments, by rw [hcourse], hlength, hplaces, ?_, ?_⟩
    · intro e final hexecute
      rw [hcourse, show gateway.server.execute _ _ _ = _ from hexecute]
      rfl
    · intro completion final hexecute
      have hresult : course.result =
          .ok (completion.result gateway.bigIntAsNumber description.columns) := by
        rw [hcourse, show gateway.server.execute _ _ _ = _ from hexecute]
        rfl
      rw [hresult]
      constructor
      · intro hcolumns
        rw [hcolumns, Completion.result_nil]
        exact ⟨rfl, fun word n => Completion.affected_eq⟩
      · intro hcolumns
        obtain ⟨rows, hrows, hholds⟩ := completion.result_of_columns gateway.bigIntAsNumber hcolumns
        exact ⟨rows, congrArg Except.ok hrows, hholds⟩
  · intro e refused hrefused
    have hcourse : course = _ := course_of_refused hrefused
    rw [hcourse]
    exact ⟨rfl, rfl⟩
  · intro acquired e refused hacquire hrefused
    have hcourse : course = _ := course_of_undescribed hacquire hrefused
    rw [hcourse]
    exact ⟨rfl, rfl⟩
  · intro description ready hready hcount
    have hcourse : course = _ := course_of_miscounted hready hcount
    rw [hcourse]
    exact ⟨rfl, _, rfl, rfl⟩
  · intro description ready i type v e hready hcount htype hv he hbefore
    have hvalues := Argument.ofValues_eq_error hbefore htype hv he
    have hcourse : course = _ := course_of_unconverted hready hcount hvalues
    rw [hcourse]
    exact ⟨rfl, rfl⟩

/-- A server that knows one statement, with placeholders for a small and a large integer. -/
def integerScript : ServerScript where
  pool := { size := 1 }
  description := .ok { parameters := [.int .two, .int .eight] }
  completion := .ok { tag := "UPDATE 3" }

/-- What a server says of a selection with two columns of one name. -/
def repeatedColumn : Description where
  columns := [("n", .int .four), ("t", .text), ("n", .bool)]

/-- The answer to a selection: in the second row only the last cell is not null. -/
def twoRows : Completion where
  rows := [[some [0, 0, 0, 7], some [0x78], some [1]], [none, none, some [0]]]
  tag := "SELECT 2"

def selectionScript : ServerScript where
  pool := { size := 1 }
  description := .ok repeatedColumn
  completion := .ok twoRows

/-- Two values that do not convert, one for its size and the other for what it is, and two that do.
A selection gives its rows, in which the last column of a name has the value. -/
theorem executes_iff_prepared_twoFaults :
    let gateway : PgGateway ServerScript := .ofPool .scripted false
    let description : Description := { parameters := [.int .two, .int .eight] }
    let refused := gateway.course ⟨"q", [.int 70000, .bool true]⟩ integerScript
    let accepted := gateway.course ⟨"q", [.int 7, .string " +8 "]⟩ integerScript
    let selected := gateway.course ⟨"s", []⟩ selectionScript
    (gateway.server.Describes "q" integerScript description integerScript ∧
      refused.executions = [] ∧
      refused.result = .error (PgError.outOfRange (.int .two) 70000).toBackend) ∧
    (description.Accepts [.int 7, .string " +8 "] ∧
      accepted.result = .ok ⟨[], 3⟩ ∧
      ∃ arguments, accepted.executions = [⟨"q", arguments⟩] ∧
        arguments[1]? = some ⟨.int .eight, some [0, 0, 0, 0, 0, 0, 0, 8]⟩) ∧
    gateway.server.Describes "s" selectionScript repeatedColumn selectionScript ∧
      repeatedColumn.Accepts [] ∧
      ∃ first second, selected.result = .ok ⟨[first, second], 2⟩ ∧
        Keyed.keys first = ["n", "t"] ∧ Keyed.get? first "n" = some (.bool true) ∧
        Keyed.get? first "t" = some (.string "x") ∧ Keyed.get? second "n" = some (.bool false) ∧
        Keyed.get? second "t" = some .null := by
  intro gateway description refused accepted selected
  have hready : gateway.server.Describes "q" integerScript description integerScript :=
    ⟨integerScript, rfl, rfl⟩
  have hselection : gateway.server.Describes "s" selectionScript repeatedColumn selectionScript :=
    ⟨selectionScript, rfl, rfl⟩
  refine ⟨⟨hready, ?_⟩, ?_, hselection, ?_⟩
  · have hfirst : ∀ j < 0, ∀ (t : PgType) (w : Json), description.parameters[j]? = some t →
        [Json.int 70000, .bool true][j]? = some w → ∃ datum, t.convert w = .ok datum :=
      fun j hj => absurd hj (Nat.not_lt_zero j)
    obtain ⟨-, -, -, -, -, -, hunconverted⟩ :=
      executes_iff_prepared gateway ⟨"q", [.int 70000, .bool true]⟩ integerScript
    exact hunconverted description integerScript 0 (.int .two) (.int 70000)
      (.outOfRange (.int .two) 70000) hready rfl rfl rfl rfl hfirst
  · have haccepts : description.Accepts [.int 7, .string " +8 "] := by
      refine ⟨rfl, fun i type v htype hv => ?_⟩
      match i with
      | 0 =>
          cases htype
          cases hv
          exact ⟨_, rfl⟩
      | 1 =>
          cases htype
          cases hv
          exact ⟨some (.scalar (.int .eight 8)), rfl⟩
      | _ + 2 => cases htype
    obtain ⟨-, -, hprepared, -⟩ :=
      executes_iff_prepared gateway ⟨"q", [.int 7, .string " +8 "]⟩ integerScript
    obtain ⟨arguments, hexecuted, -, hplaces, -, hanswer⟩ :=
      hprepared description integerScript hready haccepts
    obtain ⟨datum, hdatum, hargument⟩ := hplaces 1 (.int .eight) (.string " +8 ") rfl rfl
    obtain rfl : some (.scalar (.int .eight 8)) = datum := Except.ok.inj hdatum
    obtain ⟨hresult, hcount⟩ := (hanswer { tag := "UPDATE 3" } _ rfl).1 rfl
    rw [hcount "UPDATE" 3 rfl (by decide)] at hresult
    exact ⟨haccepts, hresult, arguments, hexecuted, hargument⟩
  · have haccepts : repeatedColumn.Accepts [] :=
      ⟨rfl, fun i type v htype _ => absurd htype (by simp [repeatedColumn])⟩
    obtain ⟨-, -, hprepared, -⟩ := executes_iff_prepared gateway ⟨"s", []⟩ selectionScript
    obtain ⟨arguments, -, -, -, -, hanswer⟩ :=
      hprepared repeatedColumn selectionScript hselection haccepts
    obtain ⟨rows, hresult, hrows⟩ :=
      (hanswer twoRows _ rfl).2 (List.cons_ne_nil ("n", PgType.int .four) _)
    obtain ⟨first, others, hfirst, hothers, rfl⟩ := List.forall₂_cons_left_iff.mp hrows
    obtain ⟨second, none, hsecond, hnone, rfl⟩ := List.forall₂_cons_left_iff.mp hothers
    obtain rfl := List.forall₂_nil_left_iff.mp hnone
    refine ⟨haccepts, first, second, hresult, hfirst.keys_eq.trans (by decide), ?_, ?_, ?_, ?_⟩
    · exact (hfirst.get?_eq_some_iff "n" _).mpr ⟨[_, _], .bool, some [1], [], rfl, by simp, rfl⟩
    · exact (hfirst.get?_eq_some_iff "t" _).mpr
        ⟨[_], .text, some [0x78], [_], rfl, by simp, rfl⟩
    · exact (hsecond.get?_eq_some_iff "n" _).mpr ⟨[_, _], .bool, some [0], [], rfl, by simp, rfl⟩
    · exact (hsecond.get?_eq_some_iff "t" _).mpr ⟨[_], .text, none, [_], rfl, by simp, rfl⟩

end PgGateway

end PgCollections
