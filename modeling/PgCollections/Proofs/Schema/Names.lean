import PgCollections.Proofs.Schema.Definitions

/-! # Names of constraints

The name of a constraint is made of the prefix, the name of the table, the name of the index and an
ending for the kind, with underscores between them.  All of these may contain underscores and
endings.  Inside a table the names agree up to the name of the index, and no ending is the end of
another (`Index.Group.ending_suffix_iff`), so the names tell the indexes apart
(`Index.constraint_name_inj`). -/

namespace PgCollections

open Sql

namespace Index

/-! ### Endings -/

/-- What follows the name of an index in the name of its constraint. -/
def Group.ending (g : Group) : List Char := '_' :: g.suffix.toList

/-- The ending of a kind does not end with that of another one. -/
theorem Group.ending_suffix_iff (g g' : Group) : g.ending <:+ g'.ending ↔ g = g' := by
  cases g <;> cases g' <;> decide

/-- A text and the ending behind it are known from the whole. -/
theorem append_ending_inj {text text' : List Char} {g g' : Group} :
    text ++ g.ending = text' ++ g'.ending ↔ g = g' ∧ text = text' := by
  constructor
  · intro h
    have hg : g.ending <:+ text ++ g.ending := List.suffix_append _ _
    have hg' : g'.ending <:+ text ++ g.ending := h ▸ List.suffix_append _ _
    have hsame : g = g' := by
      rcases List.suffix_or_suffix_of_suffix hg hg' with hends | hends
      · exact (Group.ending_suffix_iff g g').mp hends
      · exact ((Group.ending_suffix_iff g' g).mp hends).symm
    subst hsame
    exact ⟨rfl, List.append_cancel_right h⟩
  · rintro ⟨rfl, rfl⟩
    rfl

/-! ### Names -/

/-- What the names of all constraints of a table begin with. -/
def namesBegin (tablePrefix : Option String) (table : String) : List Char :=
  (match tablePrefix with
    | none | some "" => ""
    | some text => text ++ "_").toList ++ (table.toList ++ ['_'])

theorem toList_constraintName (tablePrefix : Option String) (table index : String) (g : Group) :
    (constraintName tablePrefix table index g.suffix).toList =
      namesBegin tablePrefix table ++ (index.toList ++ g.ending) := by
  unfold constraintName namesBegin Group.ending
  split <;> simp

/-- Indexes of a table have the same name for their constraints only if they have the same kind and
the same name. -/
theorem constraint_name_inj (tablePrefix : Option String) (table : String) {a b : Index} :
    (a.constraint tablePrefix table).name = (b.constraint tablePrefix table).name ↔
      a.group = b.group ∧ a.name = b.name := by
  rw [← String.toList_inj, constraint, constraint, toList_constraintName, toList_constraintName,
    List.append_cancel_left_eq, append_ending_inj, String.toList_inj]

/-- Tables with different prefixes have different names for the constraint of an index. -/
theorem constraint_name_inj_prefix {p q : String} (hp : p ≠ "") (hq : q ≠ "") (table : String)
    (index : Index) :
    (index.constraint (some p) table).name = (index.constraint (some q) table).name ↔ p = q := by
  have hbegin {p : String} (hp : p ≠ "") :
      namesBegin (some p) table = p.toList ++ ('_' :: (table.toList ++ ['_'])) := by
    simp [namesBegin]
  rw [← String.toList_inj, constraint, constraint, toList_constraintName, toList_constraintName,
    List.append_cancel_right_eq, hbegin hp, hbegin hq, List.append_cancel_right_eq,
    String.toList_inj]

/-- The names of constraints are distinct if and only if no two indexes agree in kind and name. -/
theorem nodup_constraint_names (tablePrefix : Option String) (table : String)
    (indexes : List Index) :
    ((indexes.map (constraint tablePrefix table)).map Constraint.name).Nodup ↔
      indexes.Pairwise fun a b => ¬ (a.group = b.group ∧ a.name = b.name) := by
  rw [List.Nodup, List.pairwise_map, List.pairwise_map]
  exact List.Pairwise.iff fun a b => not_congr (constraint_name_inj tablePrefix table)

end Index

/-- The constraints of a table, read from its text, have distinct names if and only if no two
indexes agree in kind and name.  For an index and a table, prefixes are told apart by the name. -/
theorem Statement.distinct_constraint_names (table : String) (indexes : List Index)
    (fields : List FieldDef) (tablePrefix : Option String) :
    (∃ constraints read,
      (createTable table indexes fields tablePrefix).sql =
        "CREATE TABLE " ++ quoteIdentifier table ++ " (" ++
          ", ".intercalate (fields.map FieldDef.definition ++ constraints) ++
          ") WITH (OIDS = FALSE)" ∧
      constraints.mapM Constraint.ofText? = some read ∧
      read.length = indexes.length ∧
      ((read.map Constraint.name).Nodup ↔
        indexes.Pairwise fun a b => ¬ (a.group = b.group ∧ a.name = b.name))) ∧
    ∀ (index : Index) (p q : String), p ≠ "" → q ≠ "" →
      ((Constraint.ofText? (index.definition (some p) table)).map Constraint.name =
        (Constraint.ofText? (index.definition (some q) table)).map Constraint.name ↔ p = q) := by
  constructor
  · have hperm := (Index.reordered_inDefinitionOrder indexes).perm
    refine ⟨_, _, rfl, Constraint.mapM_ofText?_definition tablePrefix table _, ?_, ?_⟩
    · rw [List.length_map, hperm.length_eq]
    · rw [Index.nodup_constraint_names]
      refine hperm.symm.pairwise_iff fun hab hba => hab ?_
      exact ⟨hba.1.symm, hba.2.symm⟩
  · intro index p q hp hq
    rw [Constraint.ofText?_definition, Constraint.ofText?_definition, Option.map_some,
      Option.map_some, Option.some_inj]
    exact Index.constraint_name_inj_prefix hp hq table index

/-- Indexes whose names look like the endings of each other. -/
def lookalikeIndexes : List Index :=
  [⟨"k", .unique⟩, ⟨"k_u", .unique⟩, ⟨"k_u", .primaryKey ["k"]⟩, ⟨"k\"_fkey", .foreign "t" "k"⟩,
    ⟨"k", .foreign "t" "k"⟩]

theorem Statement.distinct_constraint_names_lookalikeIndexes :
    (∃ constraints read,
      (createTable "t_" lookalikeIndexes [] (some "_")).sql = "CREATE TABLE \"t_\" (" ++
        ", ".intercalate constraints ++ ") WITH (OIDS = FALSE)" ∧
      constraints.mapM Constraint.ofText? = some read ∧ read.length = 5 ∧
      (read.map Constraint.name).Nodup) ∧
    ("a" ≠ "" ∧ "a_t" ≠ "" ∧
      (Constraint.ofText? (Index.definition (some "a") "t" ⟨"k", .unique⟩)).map Constraint.name ≠
        (Constraint.ofText? (Index.definition (some "a_t") "t" ⟨"k", .unique⟩)).map
          Constraint.name) := by
  have ha : "a" ≠ "" := by decide
  have hat : "a_t" ≠ "" := by decide
  obtain ⟨⟨constraints, read, hsql, hread, hlength, hnames⟩, -⟩ :=
    distinct_constraint_names "t_" lookalikeIndexes [] (some "_")
  have hprefix := (distinct_constraint_names "t" [] [] none).2 ⟨"k", .unique⟩ "a" "a_t" ha hat
  exact ⟨⟨constraints, read, hsql, hread, hlength, hnames.mpr (by decide)⟩, ha, hat,
    mt hprefix.mp (by decide)⟩

end PgCollections
