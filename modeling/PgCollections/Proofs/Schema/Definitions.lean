import Mathlib.Data.List.Pairwise
import PgCollections.Proofs.Database.Step
import PgCollections.Proofs.Schema.Constraint
import PgCollections.Proofs.Traversal

/-! # Definitions in a table

A table defines its columns as they are given, and then its constraints by kind: the primary keys,
the unique constraints, the foreign keys.  Within a kind the order is the given one, so the indexes
are `Reordered`: neighbours of different kinds change places.  Lists that differ by such exchanges
define one table, and they are the lists with the same indexes of each kind in the same order
(`Index.reordered_iff`). -/

namespace PgCollections

open Scan Sql

/-! ### Indexes in another order -/

namespace Index

/-- Neighbours of different kinds have changed places, any number of times. -/
inductive Reordered : List Index → List Index → Prop
  | nil : Reordered [] []
  | cons (a : Index) {as bs : List Index} (h : Reordered as bs) : Reordered (a :: as) (a :: bs)
  | swap {a b : Index} (h : a.group ≠ b.group) (rest : List Index) :
      Reordered (a :: b :: rest) (b :: a :: rest)
  | trans {as bs cs : List Index} (h : Reordered as bs) (h' : Reordered bs cs) : Reordered as cs

/-- The indexes of a kind. -/
def ofGroup (g : Group) (indexes : List Index) : List Index :=
  indexes.filter fun index => index.group = g

@[simp] theorem ofGroup_append (g : Group) (as bs : List Index) :
    ofGroup g (as ++ bs) = ofGroup g as ++ ofGroup g bs :=
  List.filter_append as bs

theorem ofGroup_cons (g : Group) (a : Index) (as : List Index) :
    ofGroup g (a :: as) = if a.group = g then a :: ofGroup g as else ofGroup g as := by
  simp [ofGroup, List.filter_cons]

theorem ofGroup_ofGroup (g g' : Group) (indexes : List Index) :
    ofGroup g (ofGroup g' indexes) = if g' = g then ofGroup g indexes else [] := by
  induction indexes with
  | nil => simp [ofGroup]
  | cons a as ih => by_cases h : a.group = g' <;> grind [ofGroup_cons]

namespace Reordered

theorem refl (as : List Index) : Reordered as as := by
  induction as with
  | nil => exact nil
  | cons a as ih => exact cons a ih

theorem perm {as bs : List Index} (h : Reordered as bs) : as.Perm bs := by
  induction h with
  | nil => exact .nil
  | cons a _ ih => exact ih.cons a
  | swap _ rest => exact .swap _ _ rest
  | trans _ _ ih ih' => exact ih.trans ih'

/-- Exchanges leave the indexes of a kind as they are. -/
theorem ofGroup_eq {as bs : List Index} (h : Reordered as bs) (g : Group) :
    ofGroup g as = ofGroup g bs := by
  induction h with
  | nil => rfl
  | cons a _ ih => rw [ofGroup_cons, ofGroup_cons, ih]
  | swap hne rest => grind [ofGroup_cons]
  | trans _ _ ih ih' => exact ih.trans ih'

/-- An index passes indexes of other kinds. -/
theorem to_front {a : Index} {before : List Index} (h : ∀ b ∈ before, b.group ≠ a.group)
    (rest : List Index) : Reordered (a :: (before ++ rest)) (before ++ a :: rest) := by
  induction before with
  | nil => exact refl _
  | cons b before ih =>
      obtain ⟨hb, hbefore⟩ := List.forall_mem_cons.mp h
      exact (swap (Ne.symm hb) _).trans (cons b (ih hbefore))

end Reordered

/-- Lists are reordered to each other if they have the same indexes of each kind. -/
theorem reordered_iff {as bs : List Index} :
    Reordered as bs ↔ ∀ g, ofGroup g as = ofGroup g bs := by
  refine ⟨Reordered.ofGroup_eq, fun h => ?_⟩
  induction as generalizing bs with
  | nil =>
      cases bs with
      | nil => exact .nil
      | cons b bs =>
          have hb := h b.group
          rw [ofGroup_cons, if_pos rfl] at hb
          cases hb
  | cons a as ih =>
      -- The first of its kind stands behind indexes of other kinds only.
      have ha := h a.group
      rw [ofGroup_cons, if_pos rfl] at ha
      obtain ⟨before, rest, rfl, hbefore, -, -⟩ := List.filter_eq_cons_iff.mp ha.symm
      have hbefore : ∀ b ∈ before, b.group ≠ a.group := by simpa using hbefore
      have hsame : ∀ g, ofGroup g as = ofGroup g (before ++ rest) := by
        intro g
        have hg := h g
        rw [ofGroup_append, ofGroup_cons, ofGroup_cons] at hg
        by_cases hga : a.group = g
        · have hnone : ofGroup g before = [] := by
            simpa [ofGroup, ← hga] using hbefore
          rw [if_pos hga, if_pos hga, hnone, List.nil_append] at hg
          rw [ofGroup_append, hnone, List.nil_append]
          exact (List.cons.inj hg).2
        · rwa [if_neg hga, if_neg hga, ← ofGroup_append] at hg
      exact (Reordered.cons a (ih hsame)).trans (Reordered.to_front hbefore rest)

/-! ### The order of definitions -/

theorem inDefinitionOrder_eq (indexes : List Index) :
    inDefinitionOrder indexes =
      ofGroup .primaryKeys indexes ++ ofGroup .uniques indexes ++ ofGroup .foreignKeys indexes := by
  have hkinds (index : Index) : index.isPrimaryKey = decide (index.group = .primaryKeys) ∧
      index.isUnique = decide (index.group = .uniques) ∧
      index.isForeign = decide (index.group = .foreignKeys) := by
    obtain ⟨name, kind⟩ := index
    cases kind <;> exact ⟨rfl, rfl, rfl⟩
  simp only [inDefinitionOrder, ofGroup, funext fun index => (hkinds index).1,
    funext fun index => (hkinds index).2.1, funext fun index => (hkinds index).2.2]

/-- Only kinds are put in order. -/
theorem reordered_inDefinitionOrder (indexes : List Index) :
    Reordered indexes (inDefinitionOrder indexes) := by
  refine reordered_iff.mpr fun g => ?_
  rw [inDefinitionOrder_eq]
  cases g <;> simp [ofGroup_ofGroup]

/-- Kinds come in their order. -/
theorem pairwise_inDefinitionOrder (indexes : List Index) :
    (inDefinitionOrder indexes).Pairwise fun a b => a.group.rank ≤ b.group.rank := by
  have hgroup (g : Group) : ∀ index ∈ ofGroup g indexes, index.group = g := by
    simp [ofGroup]
  have hsame (g : Group) : (ofGroup g indexes).Pairwise fun a b => a.group.rank ≤ b.group.rank := by
    refine List.pairwise_of_forall_mem_list fun a ha b hb => ?_
    rw [hgroup g a ha, hgroup g b hb]
  rw [inDefinitionOrder_eq, List.pairwise_append, List.pairwise_append]
  refine ⟨⟨hsame _, hsame _, ?_⟩, hsame _, ?_⟩
  · intro a ha b hb
    rw [hgroup _ a ha, hgroup _ b hb]
    decide
  · intro a ha b hb
    rw [hgroup _ b hb]
    cases a.group <;> decide

theorem inDefinitionOrder_of_reordered {as bs : List Index} (h : Reordered as bs) :
    inDefinitionOrder as = inDefinitionOrder bs := by
  simp only [inDefinitionOrder_eq, h.ofGroup_eq]

end Index

/-! ### Columns -/

namespace FieldDef

/-- What is said of a column behind its type. -/
def clauses (field : FieldDef) : List String :=
  (if field.notNull then ["NOT NULL"] else []) ++
    (match field.default with
      | some expression => ["DEFAULT " ++ expression]
      | none => [])

theorem definition_eq (field : FieldDef) : field.definition =
    quoteIdentifier field.name ++ (" " ++ " ".intercalate (field.sqlType :: field.clauses)) := by
  obtain ⟨name, sqlType, notNull, default⟩ := field
  rw [← String.toList_inj]
  cases notNull <;> cases default <;> simp [definition, clauses]

/-- The definition of a column says its name, and then its type and the clauses. -/
theorem scanName_definition (field : FieldDef) :
    scanName.run field.definition.toList =
      some (field.name, (" " ++ " ".intercalate (field.sqlType :: field.clauses)).toList) := by
  rw [definition_eq, String.toList_append]
  exact reads_scanName field.name (by simp)

end FieldDef

/-! ### Tables -/

/-- The definitions of the constraints are read as the constraints of the indexes. -/
theorem Constraint.mapM_ofText?_definition (tablePrefix : Option String) (table : String)
    (indexes : List Index) :
    (indexes.map (Index.definition tablePrefix table)).mapM Constraint.ofText? =
      some (indexes.map (Index.constraint tablePrefix table)) := by
  rw [mapM_eq_some_iff, List.forall₂_map_left_iff, List.forall₂_map_right_iff, List.forall₂_same]
  exact fun index _ => ofText?_definition tablePrefix table index

namespace Statement

theorem createTable_of_reordered {as bs : List Index} (h : Index.Reordered as bs) (table : String)
    (fields : List FieldDef) (tablePrefix : Option String) :
    createTable table as fields tablePrefix = createTable table bs fields tablePrefix := by
  unfold createTable tableDefinitions
  rw [Index.inDefinitionOrder_of_reordered h]

/-- An empty prefix is none. -/
theorem createTable_empty (table : String) (indexes : List Index) (fields : List FieldDef) :
    createTable table indexes fields (some "") = createTable table indexes fields none := rfl

end Statement

/-- The statement for a table is all that is sent. -/
theorem Database.connection_create (diagnostics : Diagnostics) (flags : Flags) (table : String)
    (indexes : List Index) (fields : List FieldDef) (tablePrefix : Option String)
    (world : World Script) :
    (((scripted diagnostics flags).create table indexes fields tablePrefix).run
        world).2.connection =
      ⟨world.connection.responses.tail,
        world.connection.executed ++ [Statement.createTable table indexes fields tablePrefix]⟩ := by
  have hact : (Step.create table indexes fields tablePrefix).run (scripted diagnostics flags) = do
      return (← (scripted diagnostics flags).create table indexes fields tablePrefix).map
        fun _ => Answer.done := rfl
  exact Step.connection_of_run diagnostics flags hact world

/-- A table is created by one statement without parameters.  Its definitions are those of the
fields, each with its name in front, and then one for each index, which is read as the constraint
of the index: the kinds in their order, and the indexes of a kind in the order of the list.  So the
order of indexes of different kinds makes no difference, nor does an empty prefix. -/
theorem Database.creates_fields_then_constraints (diagnostics : Diagnostics) (flags : Flags)
    (table : String) (indexes : List Index) (fields : List FieldDef) (tablePrefix : Option String)
    (world : World Script) :
    let s := Statement.createTable table indexes fields tablePrefix
    (((scripted diagnostics flags).create table indexes fields tablePrefix).run
        world).2.connection =
      ⟨world.connection.responses.tail, world.connection.executed ++ [s]⟩ ∧
    s.params = [] ∧
    (∃ columns constraints order,
      s.sql = "CREATE TABLE " ++ quoteIdentifier table ++ " (" ++
        ", ".intercalate (columns ++ constraints) ++ ") WITH (OIDS = FALSE)" ∧
      columns.Forall₂ (fun column (field : FieldDef) => scanName.run column.toList =
        some (field.name, (" " ++ " ".intercalate (field.sqlType :: field.clauses)).toList))
        fields ∧
      constraints.mapM Constraint.ofText? = some (order.map (Index.constraint tablePrefix table)) ∧
      indexes.Perm order ∧ Index.Reordered indexes order ∧
      order.Pairwise fun a b => a.group.rank ≤ b.group.rank) ∧
    (∀ others, Index.Reordered indexes others →
      Statement.createTable table others fields tablePrefix = s) ∧
    Statement.createTable table indexes fields (some "") =
      Statement.createTable table indexes fields none := by
  intro s
  refine ⟨connection_create diagnostics flags table indexes fields tablePrefix world, rfl,
    ⟨fields.map FieldDef.definition, (Index.inDefinitionOrder indexes).map
      (Index.definition tablePrefix table), Index.inDefinitionOrder indexes, rfl, ?_,
      Constraint.mapM_ofText?_definition tablePrefix table _,
      (Index.reordered_inDefinitionOrder indexes).perm, Index.reordered_inDefinitionOrder indexes,
      Index.pairwise_inDefinitionOrder indexes⟩,
    fun others h => (Statement.createTable_of_reordered h table fields tablePrefix).symm,
    Statement.createTable_empty table indexes fields⟩
  rw [List.forall₂_map_left_iff, List.forall₂_same]
  exact fun field _ => field.scanName_definition

/-- Indexes of all kinds, the last kind first. -/
def mixedIndexes : List Index :=
  [⟨"owner", .foreign "users" "id"⟩, ⟨"mail", .unique⟩, ⟨"key", .primaryKey ["id"]⟩]

theorem Database.creates_fields_then_constraints_mixedIndexes :
    let fields : List FieldDef := [⟨"id", "serial", true, none⟩, ⟨"mail", "text", false, none⟩]
    let world : World Script := ⟨⟨[.ok {}], []⟩, []⟩
    ∃ s, (((scripted (fun _ => []) {}).create "t" mixedIndexes fields (some "p")).run
        world).2.connection = ⟨[], [s]⟩ ∧
      s.sql = "CREATE TABLE \"t\" (\"id\" serial NOT NULL, \"mail\" text, " ++
        "CONSTRAINT \"p_t_key_pkey\" PRIMARY KEY (\"id\"), " ++
        "CONSTRAINT \"p_t_mail_u\" UNIQUE (\"mail\"), " ++
        "CONSTRAINT \"p_t_owner_fkey\" FOREIGN KEY (\"owner\") REFERENCES \"users\" (\"id\") " ++
        "MATCH SIMPLE) WITH (OIDS = FALSE)" ∧
      Index.Reordered mixedIndexes mixedIndexes.reverse ∧
      Statement.createTable "t" mixedIndexes.reverse fields (some "p") = s := by
  intro fields world
  have hreversed : Index.Reordered mixedIndexes mixedIndexes.reverse :=
    Index.reordered_iff.mpr fun g => by cases g <;> rfl
  obtain ⟨hsent, -, -, hothers, -⟩ :=
    creates_fields_then_constraints (fun _ => []) {} "t" mixedIndexes fields (some "p") world
  exact ⟨_, hsent, by decide +kernel, hreversed, hothers _ hreversed⟩

end PgCollections
