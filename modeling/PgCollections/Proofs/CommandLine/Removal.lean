import PgCollections.CommandLine.Program
import PgCollections.Proofs.Postgres.Traffic
import PgCollections.Proofs.Sql.Restriction
import PgCollections.Proofs.Traversal

/-! # Removals on the command line

Without `--all`, a removal sends deletions of restricted statements only.  The statement that is
built deletes from the table under a condition (`restrictedDeletion_of_removeStatement`), whatever
the filter's text is; a run sends this statement or nothing (`keeps_run_remove`), and a dry run
shows it or nothing (`dryRun_out`). -/

namespace PgCollections

open Sql

/-- The text deletes rows of the table under a condition. -/
def Sql.RestrictedDeletion (table sql : String) : Prop :=
  ∃ ts, lex sql.toList = some ts ∧
    [.keyword .DELETE, .blank, .keyword .FROM, .blank, .name table] <+: ts ∧ .keyword .WHERE ∈ ts

theorem Statement.restrictedDeletion_of_delete {table : String} {filter : Filter} {s : Statement}
    (h : delete table filter = .ok s) (hne : filter.entries ≠ []) :
    RestrictedDeletion table s.sql := by
  obtain ⟨ts, hlex, hwhere⟩ := (restricted_delete_iff h).mpr hne
  refine ⟨ts, hlex, ?_, hwhere⟩
  rw [delete_eq] at h
  obtain ⟨-, rfl⟩ := Filter.checked_eq_ok_iff.mp h
  rw [lex_text (passage_deleteTokens table filter.leaves).separated] at hlex
  exact Option.some.inj hlex ▸ List.prefix_append _ _

namespace CommandLine

/-- A removal is built for a filter that can be read, and for an empty one with `--all` only. -/
theorem removeStatement_eq_ok_iff {table text : String} {all : Bool} {s : Statement} :
    removeStatement table text all = .ok s ↔ ∃ filter, readFilter text = .ok filter ∧
      (filter.isEmpty → all) ∧ Statement.delete table filter = .ok s := by
  unfold removeStatement
  rw [bind_eq_ok_iff]
  refine exists_congr fun filter => and_congr_right fun _ => ?_
  by_cases hrefused : filter.isEmpty ∧ ¬ all
  · rw [if_pos hrefused]
    simp [hrefused, bind, Except.bind, throw, throwThe, MonadExceptOf.throw]
  · have hall : filter.isEmpty → all := by simpa using hrefused
    rw [if_neg hrefused, mapError_eq_ok_iff]
    exact (and_iff_right hall).symm

theorem restrictedDeletion_of_removeStatement {table text : String} {s : Statement}
    (h : removeStatement table text false = .ok s) : RestrictedDeletion table s.sql := by
  obtain ⟨filter, -, hempty, hdelete⟩ := removeStatement_eq_ok_iff.mp h
  have hne : filter.entries ≠ [] := by simpa [Filter.isEmpty] using hempty
  exact Statement.restrictedDeletion_of_delete hdelete hne

/-- A dry run shows the statement of its query, or nothing. -/
theorem dryRun_out (flags : Flags) (query : Query) :
    ∃ executed : List Statement, (∀ s ∈ executed, query.statement = .ok s) ∧
      (dryRun flags query).out = executed.flatMap statementLines := by
  obtain ⟨purpose, e | s⟩ := query
  · exact ⟨[], by simp, rfl⟩
  · exact ⟨[s], by simp, rfl⟩

variable {τ : Type} {server : Server τ} {allowed : String → Prop} {P : τ → Prop}
  {table text : String}

theorem keeps_query {σ : Type} {P : σ → Prop} (query : Query) (db : Database σ)
    (h : ∀ s, query.statement = .ok s →
      Keeps (fun world => P world.connection) (db.gateway.execute s)) :
    Keeps (fun world => P world.connection) (query.execute db) := by
  obtain ⟨purpose, e | s⟩ := query
  · exact Keeps.pure _
  · exact (db.keeps_execute purpose (h s rfl)).bind fun _ => Keeps.pure _

theorem keeps_runLive (h : server.Upholds allowed P) (options : Options) (settings : PgConfig)
    {query : Query} (hquery : ∀ s, query.statement = .ok s → allowed s.sql) :
    Keeps (fun world => P world.connection.server) (runLive server options settings query) := by
  unfold runLive
  refine PgGateway.keeps_connect_bind h settings ?_ ?_
  · rintro gateway rfl
    have hexecute : Keeps (fun world => P world.connection.server)
        (query.execute (.ofConfig { gateway with hasHandler := true }.toGateway settings)) := by
      refine keeps_query (P := fun session : PgSession τ => P session.server) query _ ?_
      intro s hs
      exact PgGateway.keeps_execute { gateway with hasHandler := true } h (hquery s hs)
    refine hexecute.bind fun result => ?_
    cases result with
    | ok result => exact Keeps.bind (PgGateway.keeps_onServer h.close) fun _ => Keeps.pure _
    | error e => exact Keeps.bind (fun _ hs => hs) fun _ => Keeps.pure _
  · intro e
    exact Keeps.pure _

theorem keeps_runQuery (h : server.Upholds allowed P) (env : Environment) (options : Options)
    {query : Query} (hquery : ∀ s, query.statement = .ok s → allowed s.sql) :
    Keeps (fun world => P world.connection.server) (runQuery server env options query) := by
  unfold runQuery
  split
  · exact Keeps.pure _
  · split
    · exact Keeps.pure _
    · split
      · exact Keeps.pure _
      · exact Keeps.pure _
      · exact keeps_runLive h options _ hquery

/-- The query of a command, if it has one. -/
def Command.query? : Command → Option Query
  | find table filter limit offset order =>
    some ⟨.find, findStatement table filter limit offset order⟩
  | remove table filter all => some ⟨.remove, removeStatement table filter all⟩
  | types _ => none

theorem run_query (server : Server τ) (env : Environment) {arguments : List String}
    {options : Options} {command : Command} {query : Query}
    (h : Invocation.ofArguments arguments = .ok ⟨options, command⟩)
    (hquery : command.query? = some query) :
    run server env arguments = runQuery server env options query := by
  unfold run
  rw [h]
  cases command with
  | find | remove =>
      obtain rfl := Option.some.inj hquery
      rfl
  | types => cases hquery

/-- A dry run leaves the world as it is. -/
theorem runQuery_dryRun (server : Server τ) (env : Environment) {options : Options}
    (hdry : options.dryRun = true) (query : Query) :
    ∃ outcome : Outcome, runQuery server env options query = pure outcome ∧
      ∃ executed : List Statement, (∀ s ∈ executed, query.statement = .ok s) ∧
        outcome.out = executed.flatMap statementLines := by
  unfold runQuery
  split
  · exact ⟨_, rfl, [], by simp, rfl⟩
  · rw [if_pos hdry]
    exact ⟨_, rfl, dryRun_out _ query⟩

/-- Without `--all`, whatever the filter's text is, a removal keeps every property of the server
that deletions with a condition keep. -/
theorem keeps_run_remove (h : server.Upholds (RestrictedDeletion table) P) (env : Environment)
    {arguments : List String} {options : Options}
    (hremove : Invocation.ofArguments arguments = .ok ⟨options, .remove table text false⟩) :
    Keeps (fun world => P world.connection.server) (run server env arguments) := by
  rw [run_query server env hremove rfl]
  refine keeps_runQuery h env options ?_
  intro s hs
  exact restrictedDeletion_of_removeStatement hs

theorem dryRun_of_remove (server : Server τ) (env : Environment) {arguments : List String}
    {options : Options}
    (h : Invocation.ofArguments arguments = .ok ⟨options, .remove table text false⟩)
    (hdry : options.dryRun = true) (world : World (PgSession τ)) :
    ∃ outcome : Outcome, (run server env arguments).run world = (outcome, world) ∧
      ∃ executed : List Statement, (∀ s ∈ executed, RestrictedDeletion table s.sql) ∧
        outcome.out = executed.flatMap statementLines := by
  obtain ⟨outcome, hrun, executed, hexecuted, hout⟩ :=
    runQuery_dryRun server env hdry ⟨.remove, removeStatement table text false⟩
  refine ⟨outcome, ?_, executed, ?_, hout⟩
  · rw [run_query server env h rfl, hrun]
    rfl
  · intro s hs
    exact restrictedDeletion_of_removeStatement (hexecuted s hs)

/-- Selections, updates and deletions are restricted exactly if their filter has an entry.  The
clause of such a filter has a predicate, or it cannot be built and nothing is executed.  Hence a
removal without `--all` sends, and shows in a dry run, nothing but deletions with a condition. -/
theorem restricted_iff_entries :
    (∀ table (filter : Filter) options s, Statement.select table filter options = .ok s →
      (Restricted s.sql ↔ filter.entries ≠ [])) ∧
    (∀ flags table (filter : Filter) changes s,
      Statement.update flags table filter changes = .ok s →
      (Restricted s.sql ↔ filter.entries ≠ [])) ∧
    (∀ table (filter : Filter) s, Statement.delete table filter = .ok s →
      (Restricted s.sql ↔ filter.entries ≠ [])) ∧
    (∀ filter : Filter, filter.entries ≠ [] → ∀ b,
      (∃ e bound, filter.whereClause.runFrom b = (.error e, bound)) ∨
      ∃ predicate bound, predicate ≠ "" ∧ filter.predicate.runFrom b = (.ok predicate, bound) ∧
        filter.whereClause.runFrom b = (.ok (" WHERE " ++ predicate), bound)) ∧
    (∀ (filter : Filter) b e bound, filter.whereClause.runFrom b = (.error e, bound) →
      (∀ table options, Statement.select table filter options = .error e) ∧
      ∀ (σ : Type) (db : Database σ) table world,
        (db.remove table filter).run world = (.error e, world) ∧
        ∀ changes, ∃ e', (db.update table filter changes).run world = (.error e', world)) ∧
    (∀ (τ : Type) (server : Server τ) env arguments options table text,
      Invocation.ofArguments arguments = .ok ⟨options, .remove table text false⟩ →
      (∀ P, server.Upholds (RestrictedDeletion table) P →
        Keeps (fun world => P world.connection.server) (run server env arguments)) ∧
      (∀ world, world.connection.server.2 = [] →
        ∀ sql ∈ ((run server.recording env arguments).run world).2.connection.server.2,
          RestrictedDeletion table sql) ∧
      (options.dryRun = true → ∀ world, ∃ outcome : Outcome,
        (run server env arguments).run world = (outcome, world) ∧
        ∃ executed : List Statement, (∀ s ∈ executed, RestrictedDeletion table s.sql) ∧
          outcome.out = executed.flatMap statementLines)) := by
  refine ⟨?_, ?_, ?_, ?_, ?_, ?_⟩
  · intro table filter options s h
    exact Statement.restricted_select_iff h
  · intro flags table filter changes s h
    exact Statement.restricted_update_iff h
  · intro table filter s h
    exact Statement.restricted_delete_iff h
  · intro filter hne b
    exact filter.runFrom_whereClause_of_ne_nil hne b
  · intro filter b e bound h
    refine ⟨Statement.select_of_whereClause h, fun σ db table world => ⟨?_, ?_⟩⟩
    · exact db.remove_of_whereClause h table world
    · exact fun changes => db.update_of_whereClause h table changes world
  · intro τ server env arguments options table text h
    refine ⟨fun P hP => keeps_run_remove hP env h, ?_, dryRun_of_remove server env h⟩
    intro world hworld
    have hrecording := server.upholds_recording (RestrictedDeletion table)
    exact keeps_run_remove hrecording env h world (by simp [hworld])

/-- A dry run that shows a deletion with its condition. -/
theorem restricted_iff_entries_dryRun :
    let arguments := ["-d", "remove", "t\"", "--filter", "\x7b\"a\":1\x7d"]
    let start : World (PgSession Unit) := ⟨⟨(), []⟩, []⟩
    Invocation.ofArguments arguments =
        .ok ⟨{ dryRun := true }, .remove "t\"" "\x7b\"a\":1\x7d" false⟩ ∧
      ∃ outcome : Outcome,
        (run (Server.unreachable (.io "")) ⟨none, "", fun _ => none⟩ arguments).run start =
          (outcome, start) ∧
        outcome.out = ["Generated SQL:", "DELETE FROM \"t\"\"\" WHERE \"a\" = $1", "", "Bindings:",
          "  $1 = 1"] ∧
        ∃ executed : List Statement, (∀ s ∈ executed, RestrictedDeletion "t\"" s.sql) ∧
          outcome.out = executed.flatMap statementLines := by
  intro arguments start
  obtain ⟨-, -, -, -, -, hremove⟩ := restricted_iff_entries
  have h : Invocation.ofArguments arguments =
      .ok ⟨{ dryRun := true }, .remove "t\"" "\x7b\"a\":1\x7d" false⟩ := rfl
  obtain ⟨-, -, hdry⟩ :=
    hremove Unit (Server.unreachable (.io "")) ⟨none, "", fun _ => none⟩ _ _ _ _ h
  obtain ⟨outcome, hrun, hexecuted⟩ := hdry rfl start
  have hout : ((run (Server.unreachable (.io "")) ⟨none, "", fun _ => none⟩ arguments).run
      start).1.out = ["Generated SQL:", "DELETE FROM \"t\"\"\" WHERE \"a\" = $1", "", "Bindings:",
        "  $1 = 1"] := by
    decide +kernel
  rw [hrun] at hout
  exact ⟨h, outcome, hrun, hout, hexecuted⟩

end CommandLine

end PgCollections
