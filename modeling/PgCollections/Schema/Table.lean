import PgCollections.Schema.FieldType
import PgCollections.Sql.Bindings
import PgCollections.Sql.Identifier

/-!
# Tables

`Statement.createTable` defines the columns first and then the constraints: the primary keys, the
unique constraints and the foreign keys, each group in the given order.
-/

namespace PgCollections

/-- A column: its type is written as it is, and so is its default expression. -/
structure FieldDef where
  name : String
  sqlType : String
  notNull : Bool := false
  default : Option String := none
deriving DecidableEq

inductive IndexKind where
  | primaryKey (columns : List String)
  /-- Unique in the column with the index's name. -/
  | unique
  /-- From the column with the index's name to a column of another table. -/
  | foreign (table field : String)
deriving DecidableEq

structure Index where
  name : String
  kind : IndexKind
deriving DecidableEq

namespace FieldDef

def ofJson? (v : Json) : Option FieldDef := do
  match ← v.record? .strict [⟨["name"], false⟩, ⟨["type"], false⟩, ⟨["notNull"], true⟩,
      ⟨["default"], false⟩] with
  | [some name, some sqlType, notNull, default] =>
    return ⟨← name.asString?, ← sqlType.asString?, ← Json.orDefault? Json.asBool? false notNull,
      ← Json.optional? Json.asString? default⟩
  | _ => none

def definition (field : FieldDef) : String :=
  quoteIdentifier field.name ++ " " ++ field.sqlType ++
    (if field.notNull then " NOT NULL" else "") ++
    (match field.default with
      | some expression => " DEFAULT " ++ expression
      | none => "")

end FieldDef

namespace Index

/-- The name of a constraint of a table, before it is quoted. -/
def constraintName (tablePrefix : Option String) (table index suffix : String) : String :=
  (match tablePrefix with
    | none | some "" => ""
    | some text => text ++ "_") ++ table ++ "_" ++ index ++ "_" ++ suffix

def isPrimaryKey (index : Index) : Bool :=
  match index.kind with
  | .primaryKey _ => true
  | _ => false

def isUnique (index : Index) : Bool :=
  match index.kind with
  | .unique => true
  | _ => false

def isForeign (index : Index) : Bool :=
  match index.kind with
  | .foreign .. => true
  | _ => false

/-- The definition of the constraint in a table. -/
def definition (tablePrefix : Option String) (table : String) (index : Index) : String :=
  let named := fun suffix =>
    "CONSTRAINT " ++ quoteIdentifier (constraintName tablePrefix table index.name suffix)
  match index.kind with
  | .primaryKey columns => named "pkey" ++ " PRIMARY KEY (" ++ quoteIdentifiers columns ++ ")"
  | .unique => named "u" ++ " UNIQUE (" ++ quoteIdentifier index.name ++ ")"
  | .foreign target field =>
    named "fkey" ++ " FOREIGN KEY (" ++ quoteIdentifier index.name ++ ") REFERENCES " ++
      quoteIdentifier target ++ " (" ++ quoteIdentifier field ++ ") MATCH SIMPLE"

/-- The indexes in the order of their definitions. -/
def inDefinitionOrder (indexes : List Index) : List Index :=
  indexes.filter isPrimaryKey ++ indexes.filter isUnique ++ indexes.filter isForeign

end Index

/-- The definitions of a table, columns before constraints. -/
def tableDefinitions (name : String) (indexes : List Index) (fields : List FieldDef)
    (tablePrefix : Option String) : List String :=
  fields.map FieldDef.definition ++
    (Index.inDefinitionOrder indexes).map (Index.definition tablePrefix name)

namespace Statement

def createTable (name : String) (indexes : List Index) (fields : List FieldDef)
    (tablePrefix : Option String) : Statement :=
  ⟨"CREATE TABLE " ++ quoteIdentifier name ++ " (" ++
    ", ".intercalate (tableDefinitions name indexes fields tablePrefix) ++
    ") WITH (OIDS = FALSE)", []⟩

def dropTable (name : String) : Statement :=
  ⟨"DROP TABLE " ++ quoteIdentifier name, []⟩

end Statement

end PgCollections
