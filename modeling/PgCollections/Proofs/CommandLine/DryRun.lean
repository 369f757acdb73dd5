import PgCollections.Proofs.CommandLine.Removal
import PgCollections.Proofs.Database.Step

/-! # Dry runs

A command line that asks for a dry run differs from one that does not in one option
(`ofArguments_dryRun`).  A live run connects and hands the statement of its query to the gateway;
`Query.course` is this part of it, with the statements that were handed over, and `run_live` says
that the run is its course.  A dry run shows the statement of the query (`run_dry`).

Both depend on the query alone, neither on the flags of the configuration nor on the server.  The
main statement is `dryRun_shows_what_is_sent`. -/

namespace PgCollections

/-- A gateway that keeps the statements that it is handed. -/
def Gateway.watched {σ : Type} (gateway : Gateway σ) : Gateway (σ × List Statement) where
  execute statement := fun ⟨(connection, sent), log⟩ =>
    let (response, ⟨connection, log⟩) := (gateway.execute statement).run ⟨connection, log⟩
    (response, ⟨(connection, sent ++ [statement]), log⟩)
  close := fun ⟨(connection, sent), log⟩ =>
    let ((), ⟨connection, log⟩) := gateway.close.run ⟨connection, log⟩
    ((), ⟨(connection, sent), log⟩)

namespace CommandLine

/-! ### Options -/

/-- An item asks for a dry run, or it has nothing to do with that. -/
theorem Options.set_cases {options next : Options} {item : Item} (h : options.set item = .ok next) :
    (item = .flag "dry-run" ∧ next = { options with dryRun := true }) ∨
      next.dryRun = options.dryRun ∧
        ∀ dryRun, { options with dryRun }.set item = .ok { next with dryRun } := by
  unfold set at h
  split at h
  case h_1 => cases h
  case h_2 =>
      split at h
      case isTrue => cases h
      case isFalse => exact .inl ⟨rfl, (Except.ok.inj h).symm⟩
  case h_3 =>
      split at h
      case isTrue => cases h
      case isFalse hverbose =>
          obtain rfl := Except.ok.inj h
          exact .inr ⟨rfl, fun dryRun => if_neg hverbose⟩
  case h_4 =>
      split at h
      case isTrue => cases h
      case isFalse hconfig =>
          obtain rfl := Except.ok.inj h
          exact .inr ⟨rfl, fun dryRun => if_neg hconfig⟩
  case h_5 =>
      split at h
      case isTrue => cases h
      case isFalse hformat =>
          obtain rfl := Except.ok.inj h
          exact .inr ⟨rfl, fun dryRun => if_neg hformat⟩
  case h_6 => cases h

/-- Once a dry run is asked for, it stays so. -/
theorem dryRun_of_foldlM {items : List Item} {options final : Options}
    (h : items.foldlM Options.set options = .ok final) (hdry : options.dryRun = true) :
    final.dryRun = true := by
  induction items generalizing options with
  | nil =>
      obtain rfl := Except.ok.inj h
      exact hdry
  | cons item items ih =>
      rw [List.foldlM_cons, bind_eq_ok_iff] at h
      obtain ⟨next, hset, hrest⟩ := h
      obtain ⟨-, rfl⟩ | ⟨hnext, -⟩ := Options.set_cases hset
      · exact ih hrest rfl
      · exact ih hrest (hnext.trans hdry)

/-- Items that ask for no dry run can be read after one that does. -/
theorem foldlM_set_dryRun {items : List Item} {options final : Options}
    (h : items.foldlM Options.set options = .ok final) (hfinal : final.dryRun = false) :
    items.foldlM Options.set { options with dryRun := true } =
      .ok { final with dryRun := true } := by
  induction items generalizing options with
  | nil =>
      obtain rfl := Except.ok.inj h
      rfl
  | cons item items ih =>
      rw [List.foldlM_cons, bind_eq_ok_iff] at h
      obtain ⟨next, hset, hrest⟩ := h
      rw [List.foldlM_cons]
      obtain ⟨-, rfl⟩ | ⟨-, hcommutes⟩ := Options.set_cases hset
      · rw [dryRun_of_foldlM hrest rfl] at hfinal
        cases hfinal
      · rw [hcommutes true]
        exact ih hrest

theorem scan_dryRun (arguments : List String) :
    scan optionSwitches true none ("--dry-run" :: arguments) =
      let (items, ending) := scan optionSwitches true none arguments
      (.flag "dry-run" :: items, ending) := rfl

/-- A command line is carried out if its options and its command can be read. -/
theorem ofArguments_eq_ok_iff {arguments : List String} {options : Options} {command : Command} :
    Invocation.ofArguments arguments = .ok ⟨options, command⟩ ↔
      ∃ items name rest, scan optionSwitches true none arguments = (items, .command name rest) ∧
        readOptions items = .ok options ∧ Command.ofArguments? name rest = some command := by
  unfold Invocation.ofArguments
  rcases scan optionSwitches true none arguments with ⟨items, ending⟩
  dsimp only
  rw [bind_eq_ok_iff]
  constructor
  · rintro ⟨given, hread, h⟩
    cases ending with
    | complete | malformed => cases h
    | command name rest =>
        dsimp only at h
        cases hcommand : Command.ofArguments? name rest with
        | none =>
            rw [hcommand] at h
            cases h
        | some found =>
            rw [hcommand] at h
            cases h
            exact ⟨items, name, rest, rfl, hread, hcommand⟩
  · rintro ⟨_, name, rest, hscan, hread, hcommand⟩
    cases hscan
    refine ⟨options, hread, ?_⟩
    dsimp only
    rw [hcommand]
    rfl

/-- A command line that is carried out can be asked for a dry run. -/
theorem ofArguments_dryRun {arguments : List String} {options : Options} {command : Command}
    (h : Invocation.ofArguments arguments = .ok ⟨options, command⟩)
    (hlive : options.dryRun = false) :
    Invocation.ofArguments ("--dry-run" :: arguments) =
      .ok ⟨{ options with dryRun := true }, command⟩ := by
  obtain ⟨items, name, rest, hscan, hread, hcommand⟩ := ofArguments_eq_ok_iff.mp h
  refine ofArguments_eq_ok_iff.mpr ⟨.flag "dry-run" :: items, name, rest, ?_, ?_, hcommand⟩
  · rw [scan_dryRun, hscan]
  · exact foldlM_set_dryRun hread hlive

/-! ### Statements -/

/-- A selection is built for a filter and sort terms that can be read. -/
theorem findStatement_eq_ok_iff {table text : String} {limit offset : Option Nat}
    {terms : List String} {s : Statement} :
    findStatement table text limit offset terms = .ok s ↔ ∃ filter order,
      readFilter text = .ok filter ∧ terms.mapM readOrder = .ok order ∧
        Statement.select table filter ⟨limit, offset, order⟩ = .ok s := by
  unfold findStatement
  simp only [bind_eq_ok_iff, mapError_eq_ok_iff, exists_and_left]

/-- A statement that is sent is the one of a step, whatever the flags are. -/
theorem exists_step {command : Command} {query : Query} (hquery : command.query? = some query)
    {s : Statement} (hs : query.statement = .ok s) :
    ∃ step : Step, step.purpose = query.purpose ∧
      ∀ flags, step.statement? flags = .ok (some s) := by
  cases command with
  | find table text limit offset terms =>
      obtain rfl := Option.some.inj hquery
      obtain ⟨filter, order, -, -, hselect⟩ := findStatement_eq_ok_iff.mp hs
      refine ⟨.table table (.find filter ⟨limit, offset, order⟩), rfl, fun flags => ?_⟩
      rw [Step.statement?, Operation.statement?, hselect]
      rfl
  | remove table text all =>
      obtain rfl := Option.some.inj hquery
      obtain ⟨filter, -, -, hdelete⟩ := removeStatement_eq_ok_iff.mp hs
      refine ⟨.table table (.remove filter), rfl, fun flags => ?_⟩
      rw [Step.statement?, Operation.statement?, hdelete]
      rfl
  | types => cases hquery

/-! ### Courses -/

/-- What executing a query gives, the world that it leaves, and the statements that the gateway was
handed. -/
structure Query.Course (σ : Type) where
  result : Except Failure QueryResult
  after : World σ
  sent : List Statement

namespace Query

variable {σ : Type} (query : Query)

/-- Executes a query through the same gateway, which now keeps what it is handed. -/
def course (db : Database σ) (world : World σ) : Course σ :=
  let watched : Database (σ × List Statement) := ⟨db.gateway.watched, db.diagnostics, db.flags⟩
  let (result, ⟨(connection, sent), log⟩) :=
    (query.execute watched).run ⟨(world.connection, []), world.log⟩
  ⟨result, ⟨connection, log⟩, sent⟩

/-- What is sent for a query through any gateway. -/
def sent : List Statement :=
  match query.statement with
  | .ok s => [s]
  | .error _ => []

/-- What a dry run leaves. -/
def shown : Outcome :=
  match query.statement with
  | .ok s => { out := statementLines s }
  | .error e => .failed e [] []

/-- There is a statement, which is sent and shown, or an error, and nothing is sent. -/
theorem sent_cases :
    (∃ s, query.statement = .ok s ∧ query.sent = [s] ∧ query.shown = { out := statementLines s }) ∨
      ∃ e, query.statement = .error e ∧ query.sent = [] ∧ query.shown = .failed e [] [] := by
  unfold sent shown
  cases query.statement with
  | ok s => exact .inl ⟨s, rfl, rfl, rfl⟩
  | error e => exact .inr ⟨e, rfl, rfl, rfl⟩

theorem run_execute_of_error (db : Database σ) {e : Failure} (he : query.statement = .error e)
    (world : World σ) : (query.execute db).run world = (.error e, world) := by
  unfold execute
  rw [he]
  rfl

theorem run_execute_of_ok (db : Database σ) {s : Statement} (hs : query.statement = .ok s)
    {world after : World σ} {response : Response}
    (h : (db.gateway.execute s).run world = (response, after)) :
    (query.execute db).run world =
      ((response.mapError query.purpose.error).mapError .database,
        { after with log := after.log ++ query.purpose.events db.diagnostics s response }) := by
  unfold execute
  rw [hs]
  exact Action.run_seq _ (db.run_execute query.purpose h)

/-- Watching what is handed over changes neither the result nor the world. -/
theorem course_eq (db : Database σ) (world : World σ) :
    query.course db world =
      ⟨((query.execute db).run world).1, ((query.execute db).run world).2, query.sent⟩ := by
  cases hs : query.statement with
  | error e =>
      unfold course sent
      rw [query.run_execute_of_error db hs, hs]
      dsimp only
      rw [query.run_execute_of_error ⟨db.gateway.watched, db.diagnostics, db.flags⟩ hs]
  | ok s =>
      rcases h : (db.gateway.execute s).run world with ⟨response, after⟩
      have hwatched : (db.gateway.watched.execute s).run ⟨(world.connection, []), world.log⟩ =
          (response, ⟨(after.connection, [s]), after.log⟩) := by
        change (let (response, ⟨connection, log⟩) := (db.gateway.execute s).run world
          (response, (⟨(connection, [] ++ [s]), log⟩ : World (σ × List Statement)))) = _
        rw [h]
        rfl
      unfold course sent
      rw [query.run_execute_of_ok db hs h, hs]
      dsimp only
      rw [query.run_execute_of_ok ⟨db.gateway.watched, db.diagnostics, db.flags⟩ hs hwatched]

end Query

/-! ### Output -/

/-- The line that shows a parameter at a place. -/
def bindingLine (i : Nat) (v : Json) : String := "  $" ++ toString (i + 1) ++ " = " ++ v.text

theorem statementLines_of_params {s : Statement} (h : s.params ≠ []) :
    statementLines s =
      "Generated SQL:" :: s.sql :: "" :: "Bindings:" :: s.params.mapIdx bindingLine := by
  have hlines : ¬ (s.params.mapIdx bindingLine).isEmpty := by simpa using h
  exact congrArg (fun lines => "Generated SQL:" :: s.sql :: lines) (if_neg hlines)

theorem statementLines_of_params_nil {s : Statement} (h : s.params = []) :
    statementLines s = ["Generated SQL:", s.sql] := by
  simp [statementLines, h]

/-- The text of a statement stands in the second line, and its parameters stand at the end, each
with its number. -/
theorem statementLines_spec (s : Statement) :
    (statementLines s)[1]? = some s.sql ∧
      (statementLines s).length = (if s.params = [] then 2 else 4 + s.params.length) ∧
      ∀ (i : Nat) (v : Json), s.params[i]? = some v →
        (statementLines s)[4 + i]? = some (bindingLine i v) := by
  refine ⟨rfl, ?_, fun i v hv => ?_⟩
  · split
    case isTrue h => rw [statementLines_of_params_nil h]; rfl
    case isFalse h =>
        rw [statementLines_of_params h]
        simp only [List.length_cons, List.length_mapIdx]
        omega
  · have hne : s.params ≠ [] := List.ne_nil_of_mem (List.mem_of_getElem? hv)
    rw [statementLines_of_params hne, Nat.add_comm]
    simp only [List.getElem?_cons_succ, List.getElem?_mapIdx, hv, Option.map_some]

/-! ### Runs -/

variable {τ : Type}

/-- What a live run leaves, by the course of its query. -/
def Query.Course.outcome (course : Query.Course (PgSession τ)) (options : Options)
    (settings : PgConfig) (purpose : Purpose) : Outcome :=
  let before := if options.verbose then [connectingLine settings] else []
  match course.result with
  | .ok result => { out := before ++ resultLines (options.format.getD .table) purpose result }
  | .error e =>
    .failed e before (course.after.connection.reports.map fun e =>
      "Connection error: " ++ e.message)

/-- The world after a live run, which closes the gateway if nothing went wrong. -/
def Query.Course.final {σ : Type} (course : Query.Course σ) (db : Database σ) : World σ :=
  match course.result with
  | .ok _ => (db.shutdown.run course.after).2
  | .error _ => course.after

/-- The database of a live run. -/
def liveDatabase (gateway : PgGateway τ) (settings : PgConfig) : Database (PgSession τ) :=
  .ofConfig { gateway with hasHandler := true }.toGateway settings

variable (server : Server τ) (env : Environment)

/-- A live run connects, takes the course of its query, and prints what that gave. -/
theorem run_runLive (options : Options) {settings : PgConfig} (query : Query)
    {gateway : PgGateway τ} {world opened : World (PgSession τ)}
    (hopen : (PgGateway.connect server settings).run world = (.ok gateway, opened)) :
    let db := liveDatabase gateway settings
    let course := query.course db opened
    (runLive server options settings query).run world =
      (course.outcome options settings query.purpose, course.final db) := by
  intro db course
  rw [show course = _ from query.course_eq db opened]
  unfold runLive
  dsimp only
  rw [Action.run_seq _ hopen]
  dsimp only
  rcases hexecute : (query.execute db).run opened with ⟨result, after⟩
  refine (Action.run_seq _ hexecute).trans ?_
  cases result <;> rfl

theorem dryRun_eq_shown (flags : Flags) (query : Query) : dryRun flags query = query.shown := by
  obtain ⟨purpose, e | s⟩ := query
  · rfl
  · change ({ out := [s].flatMap statementLines } : Outcome) = { out := statementLines s }
    rw [List.flatMap_singleton]

/-- A live run that opens a connection is the course of its query. -/
theorem run_live {arguments : List String} {options : Options} {command : Command} {query : Query}
    {config : Config} {settings : PgConfig} {gateway : PgGateway τ}
    {world opened : World (PgSession τ)}
    (h : Invocation.ofArguments arguments = .ok ⟨options, command⟩)
    (hlive : options.dryRun = false) (hquery : command.query? = some query)
    (hconfig : loadConfig env options = .ok (some config))
    (hsettings : config.selected = .ok settings)
    (hopen : (PgGateway.connect server settings).run world = (.ok gateway, opened)) :
    let db := liveDatabase gateway settings
    let course := query.course db opened
    (run server env arguments).run world =
      (course.outcome options settings query.purpose, course.final db) := by
  intro db course
  rw [run_query server env h hquery]
  unfold runQuery
  rw [hconfig]
  dsimp only
  rw [hlive, if_neg Bool.false_ne_true, Option.map_some, hsettings]
  exact run_runLive server options query hopen

/-- A dry run shows its query and leaves the world as it is. -/
theorem run_dry {arguments : List String} {options : Options} {command : Command} {query : Query}
    {config : Option Config} (h : Invocation.ofArguments arguments = .ok ⟨options, command⟩)
    (hdry : options.dryRun = true) (hquery : command.query? = some query)
    (hconfig : loadConfig env options = .ok config) (world : World (PgSession τ)) :
    (run server env arguments).run world = (query.shown, world) := by
  rw [run_query server env h hquery]
  unfold runQuery
  rw [hconfig]
  dsimp only
  rw [if_pos hdry, dryRun_eq_shown]
  rfl

/-- Opening the pool reports nothing to a handler. -/
theorem reports_of_connect {settings : PgConfig} {world opened : World (PgSession τ)}
    {result : Except BackendError (PgGateway τ)}
    (h : (PgGateway.connect server settings).run world = (result, opened)) :
    opened.connection.reports = world.connection.reports := by
  rcases hconnect : (server.connect settings).run.run world.connection.server with ⟨answer, state⟩
  have hserver : (PgGateway.onServer (server.connect settings).run).run world =
      (answer, { world with connection.server := state }) := by
    change (let (answer, state) := (server.connect settings).run.run world.connection.server
      (answer, ({ world with connection.server := state } : World (PgSession τ)))) = _
    rw [hconnect]
  rw [PgGateway.connect, Action.run_seq _ hserver] at h
  cases answer with
  | ok | error =>
      cases h
      rfl

/-- A dry run shows what the live run hands to its gateway.  Both depend on the query of the command
line alone, whatever the flags of the configuration and the server are.  If the query has a
statement, the live run hands over this statement and no other, and the dry run shows its text and
its parameters, each with its number; otherwise nothing is handed over, nothing is shown, and both
fail with the same error. -/
theorem dryRun_shows_what_is_sent {live dry : List String} {options : Options} {command : Command}
    {query : Query} {config : Config} {settings : PgConfig} {gateway : PgGateway τ} {start : τ}
    {opened : World (PgSession τ)}
    (hlive : Invocation.ofArguments live = .ok ⟨options, command⟩)
    (hoption : options.dryRun = false)
    (hdry : Invocation.ofArguments dry = .ok ⟨{ options with dryRun := true }, command⟩)
    (hquery : command.query? = some query)
    (hconfig : loadConfig env options = .ok (some config))
    (hsettings : config.selected = .ok settings)
    (hopen : (PgGateway.connect server settings).run ⟨⟨start, []⟩, []⟩ = (.ok gateway, opened)) :
    let db := liveDatabase gateway settings
    let course := query.course db opened
    let shown := query.shown
    (run server env live).run ⟨⟨start, []⟩, []⟩ =
        (course.outcome options settings query.purpose, course.final db) ∧
      (∀ world, (run server env dry).run world = (shown, world)) ∧
      Invocation.ofArguments ("--dry-run" :: live) =
        .ok ⟨{ options with dryRun := true }, command⟩ ∧
      course.sent = query.sent ∧
      (shown.out ≠ [] ↔ course.sent ≠ []) ∧
      (∀ s ∈ course.sent, course.sent = [s] ∧
        (∃ step : Step, step.purpose = query.purpose ∧
          ∀ flags, step.statement? flags = .ok (some s)) ∧
        shown = { out := statementLines s } ∧ shown.out[1]? = some s.sql ∧
        shown.out.length = (if s.params = [] then 2 else 4 + s.params.length) ∧
        ∀ (i : Nat) (v : Json), s.params[i]? = some v →
          shown.out[4 + i]? = some (bindingLine i v)) ∧
      (course.sent = [] → ∃ e : Failure, query.statement = .error e ∧ shown = .failed e [] [] ∧
        (run server env live).run ⟨⟨start, []⟩, []⟩ =
          (.failed e (if options.verbose then [connectingLine settings] else []) [], opened)) := by
  intro db course shown
  have hrun := run_live server env hlive hoption hquery hconfig hsettings hopen
  have hdryRun := run_dry server env hdry rfl hquery hconfig
  have hcourse : course = _ := query.course_eq db opened
  have hsent : course.sent = query.sent := by rw [hcourse]
  refine ⟨hrun, hdryRun, ofArguments_dryRun hlive hoption, hsent, ?_⟩
  obtain ⟨s, hs, hsent', hshown⟩ | ⟨e, he, hsent', hshown⟩ := query.sent_cases
  · rw [hsent, hsent', show shown = _ from hshown]
    refine ⟨by simp [statementLines], ?_, fun hnil => absurd hnil (List.cons_ne_nil _ _)⟩
    rintro s hmem
    obtain rfl := List.mem_singleton.mp hmem
    exact ⟨rfl, exists_step hquery hs, rfl, statementLines_spec s⟩
  · have hfailed : course = ⟨.error e, opened, []⟩ := by
      rw [hcourse, query.run_execute_of_error db he, hsent']
    have hreports := reports_of_connect server hopen
    rw [hrun, show query.course _ opened = _ from hfailed, hfailed,
      show shown = _ from hshown]
    refine ⟨by simp [Outcome.failed], fun s hs => absurd hs List.not_mem_nil, fun _ => ?_⟩
    refine ⟨e, he, rfl, ?_⟩
    simp only [Query.Course.outcome, Query.Course.final, hreports]
    rfl

/-- There is a configuration file at every place, with a port of its own. -/
def localEnvironment : Environment where
  defaultFile := "config.toml"
  contents _ := some (Bytes.ofString "use = \"postgresql\"\n[postgresql]\nport = 5433\n")

theorem loadConfig_local (options : Options) :
    loadConfig localEnvironment options = .ok (some ⟨"postgresql", { port := 5433 }⟩) := by
  have hoption : (loadConfig localEnvironment options).toOption =
      some (some ⟨"postgresql", { port := 5433 }⟩) := by
    change (loadConfig localEnvironment {}).toOption = _
    decide +kernel
  cases hload : loadConfig localEnvironment options with
  | error e =>
      rw [hload] at hoption
      cases hoption
  | ok config =>
      rw [hload] at hoption
      obtain rfl := Option.some.inj hoption
      rfl

/-- A selection that is sent and shown, and a deletion of all rows that both modes refuse. -/
theorem dryRun_shows_what_is_sent_find :
    let start : World (PgSession ServerScript) := ⟨⟨{}, []⟩, []⟩
    let find : List String :=
      ["find", "t", "--filter", "\x7b\"a\":7\x7d", "--order", "b:desc", "--limit", "3"]
    let sql := "SELECT * FROM \"t\" WHERE \"a\" = $1 ORDER BY \"b\" DESC LIMIT $2"
    let shown : Outcome :=
      { out := ["Generated SQL:", sql, "", "Bindings:", "  $1 = 7", "  $2 = 3"] }
    (run .scripted localEnvironment ("-d" :: find)).run start = (shown, start) ∧
      (∃ (query : Query) (db : Database (PgSession ServerScript)) (opened : World _)
          (s : Statement),
        ((run .scripted localEnvironment find).run start).1 =
          (query.course db opened).outcome {} { port := 5433 } .find ∧
        (query.course db opened).sent = [s] ∧ s.sql = sql) ∧
      ((run .scripted localEnvironment ["remove", "t"]).run start).1 =
        .failed (.deletesAll "t") [] [] := by
  intro start find sql shown
  let query : Query := ⟨.find, findStatement "t" "\x7b\"a\":7\x7d" (some 3) none ["b:desc"]⟩
  let refused : Query := ⟨.remove, removeStatement "t" emptyFilter false⟩
  have hopen : (PgGateway.connect Server.scripted { port := 5433 }).run start =
      (.ok ⟨.scripted, "localhost:5433, postgres@postgres", false, false⟩,
        ⟨⟨{ pool := { size := 10 } }, []⟩, [.connected "localhost:5433, postgres@postgres"]⟩) := rfl
  have hfind : Invocation.ofArguments find =
    .ok ⟨{}, .find "t" "\x7b\"a\":7\x7d" (some 3) none ["b:desc"]⟩ := rfl
  have hdry : Invocation.ofArguments ("-d" :: find) =
    .ok ⟨{ dryRun := true }, .find "t" "\x7b\"a\":7\x7d" (some 3) none ["b:desc"]⟩ := rfl
  have hremove : Invocation.ofArguments ["remove", "t"] = .ok ⟨{}, .remove "t" emptyFilter false⟩ :=
    rfl
  have hshown : query.shown = shown := by decide +kernel
  obtain ⟨hrun, hdryRun, -, -, hiff, hsent, -⟩ := dryRun_shows_what_is_sent .scripted
    localEnvironment hfind rfl hdry rfl (loadConfig_local {}) rfl hopen
  obtain ⟨-, -, -, -, hiff', -, hboth⟩ := dryRun_shows_what_is_sent .scripted localEnvironment
    hremove rfl (ofArguments_dryRun hremove rfl) rfl (loadConfig_local {}) rfl hopen
  refine ⟨hshown ▸ hdryRun start, ?_, ?_⟩
  · have hne : query.shown.out ≠ [] := by
      rw [hshown]
      exact List.cons_ne_nil _ _
    obtain ⟨s, hs⟩ := List.exists_mem_of_ne_nil _ (hiff.mp hne)
    obtain ⟨honly, -, -, hsql, -⟩ := hsent s hs
    rw [hshown] at hsql
    exact ⟨query, _, _, s, congrArg Prod.fst hrun, honly, (Option.some.inj hsql).symm⟩
  · have hrefused : refused.shown = .failed (.deletesAll "t") [] [] := by decide +kernel
    have hnothing : ¬ refused.shown.out ≠ [] := by
      rw [hrefused]
      exact not_not_intro rfl
    obtain ⟨e, -, hshown', hlive⟩ := hboth (not_not.mp (mt hiff'.mpr hnothing))
    have hsame : Outcome.failed e [] [] = .failed (.deletesAll "t") [] [] :=
      hshown'.symm.trans hrefused
    exact (congrArg Prod.fst hlive).trans hsame

end CommandLine

end PgCollections
