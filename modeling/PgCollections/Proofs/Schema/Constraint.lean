import PgCollections.Proofs.Sql.Token
import PgCollections.Proofs.Text.Scan
import PgCollections.Schema.Table

/-! # Constraints

A `Constraint` is what an index says in the text of a table: a name, and a rule about columns.
`Constraint.ofText?` reads it, names from their quoted forms.  The definition of an index is read
back as its constraint (`Constraint.ofText?_definition`), whatever the names are. -/

namespace PgCollections

open Scan

/-! ### Names -/

namespace Sql

/-- Takes a quoted identifier, for the name that it stands for. -/
def scanName : Scan String := do
  Scan.char '"'
  return String.ofList (← (readQuoted : Scan (List Char)))

/-- Takes quoted identifiers with commas between them, if there are any. -/
def scanNames : Scan (List String) := Scan.separated scanName (Scan.char ',') <|> pure []

theorem reads_scanName (name : String) {rest : List Char} (h : rest.head? ≠ some '"') :
    scanName.Reads (quoteIdentifier name).toList name rest := by
  have htext : (quoteIdentifier name).toList = ['"'] ++ (doubleQuotes name.toList ++ ['"']) := by
    simp [quoteIdentifier]
  have hquoted : Scan.Reads readQuoted (doubleQuotes name.toList ++ ['"']) name.toList rest := by
    unfold Reads StateT.run
    rw [List.append_assoc]
    exact readQuoted_doubleQuotes name.toList h
  have hname := hquoted.map String.ofList
  rw [String.ofList_toList] at hname
  rw [htext]
  exact (reads_char '"' _).seq hname

/-- A list of names is read up to a parenthesis. -/
theorem reads_scanNames (names : List String) (rest : List Char) :
    scanNames.Reads (quoteIdentifiers names).toList names (')' :: rest) := by
  have hquote : (')' :: rest).head? ≠ some '"' := by simp
  have hcomma : (char ',').Refuses (')' :: rest) := refuses_char (by simp)
  cases names with
  | nil =>
      have hnone : (Scan.separated scanName (char ',')).Refuses ([] ++ ')' :: rest) :=
        Refuses.bind (Refuses.bind (refuses_char (by simp)) _) _
      exact hnone.orElse (reads_pure [] _)
  | cons name names =>
      have htext : (quoteIdentifiers (name :: names)).toList =
          [','].intercalate ((name :: names).map fun n => (quoteIdentifier n).toList) := by
        simp [quoteIdentifiers, Function.comp_def]
      rw [htext]
      refine (reads_separated (by simp) (reads_char ',') hcomma name names ?_).orElse _
      rintro n - more (rfl | ⟨tail, rfl⟩)
      · exact reads_scanName n hquote
      · exact reads_scanName n (by simp)

end Sql

open Sql

/-! ### Reading constraints -/

/-- What a constraint demands of the columns of a table. -/
inductive Rule where
  | primaryKey (columns : List String)
  | unique (column : String)
  /-- The values of a column occur in a column of another table. -/
  | foreign (column table field : String)
deriving DecidableEq

structure Constraint where
  name : String
  rule : Rule
deriving DecidableEq

namespace Constraint

def scanPrimaryKey : Scan Rule := do
  Scan.word " PRIMARY KEY (".toList
  let columns ← scanNames
  Scan.char ')'
  return .primaryKey columns

def scanUnique : Scan Rule := do
  Scan.word " UNIQUE (".toList
  let column ← scanName
  Scan.char ')'
  return .unique column

def scanForeign : Scan Rule := do
  Scan.word " FOREIGN KEY (".toList
  let column ← scanName
  Scan.word ") REFERENCES ".toList
  let table ← scanName
  Scan.word " (".toList
  let field ← scanName
  Scan.word ") MATCH SIMPLE".toList
  return .foreign column table field

/-- Takes a constraint: its name, and the rule behind it. -/
def scan : Scan Constraint := do
  Scan.word "CONSTRAINT ".toList
  let name ← scanName
  return ⟨name, ← scanPrimaryKey <|> scanUnique <|> scanForeign⟩

/-- The constraint that is written so. -/
def ofText? (text : String) : Option Constraint := scan.all? text.toList

end Constraint

/-! ### Kinds of indexes -/

namespace Index

/-- The kinds of indexes. -/
inductive Group where
  | primaryKeys
  | uniques
  | foreignKeys
deriving DecidableEq

namespace Group

/-- The place of the kind among the kinds, as a table defines them. -/
def rank : Group → Nat
  | primaryKeys => 0
  | uniques => 1
  | foreignKeys => 2

/-- What the names of constraints end with. -/
def suffix : Group → String
  | primaryKeys => "pkey"
  | uniques => "u"
  | foreignKeys => "fkey"

end Group

def group (index : Index) : Group :=
  match index.kind with
  | .primaryKey _ => .primaryKeys
  | .unique => .uniques
  | .foreign .. => .foreignKeys

/-- The rule of an index: its own columns, and its own target. -/
def rule (index : Index) : Rule :=
  match index.kind with
  | .primaryKey columns => .primaryKey columns
  | .unique => .unique index.name
  | .foreign table field => .foreign index.name table field

/-- The constraint of an index in a table. -/
def constraint (tablePrefix : Option String) (table : String) (index : Index) : Constraint where
  name := constraintName tablePrefix table index.name index.group.suffix
  rule := index.rule

end Index

/-! ### Reading definitions -/

/-- What stands behind the name of a constraint. -/
def Rule.text : Rule → List Char
  | primaryKey columns =>
    " PRIMARY KEY (".toList ++ ((quoteIdentifiers columns).toList ++ [')'])
  | unique column => " UNIQUE (".toList ++ ((quoteIdentifier column).toList ++ [')'])
  | foreign column table field =>
    " FOREIGN KEY (".toList ++ ((quoteIdentifier column).toList ++
      (") REFERENCES ".toList ++ ((quoteIdentifier table).toList ++
        (" (".toList ++ ((quoteIdentifier field).toList ++ ") MATCH SIMPLE".toList)))))

namespace Constraint

theorem reads_scanPrimaryKey (columns : List String) (rest : List Char) :
    scanPrimaryKey.Reads (Rule.primaryKey columns).text (.primaryKey columns) rest :=
  (reads_word _ _).seq ((reads_scanNames columns rest).seq ((reads_char ')' rest).map _))

theorem reads_scanUnique (column : String) (rest : List Char) :
    scanUnique.Reads (Rule.unique column).text (.unique column) rest :=
  (reads_word _ _).seq ((reads_scanName column (by simp)).seq ((reads_char ')' rest).map _))

theorem reads_scanForeign (column table field : String) (rest : List Char) :
    scanForeign.Reads (Rule.foreign column table field).text (.foreign column table field)
      rest := by
  refine (reads_word _ _).seq ((reads_scanName column (by simp)).seq ((reads_word _ _).seq ?_))
  refine (reads_scanName table (by simp)).seq ((reads_word _ _).seq ?_)
  exact (reads_scanName field (by simp)).seq ((reads_word _ rest).map _)

/-- A scanner that begins with a word refuses a text that begins otherwise. -/
theorem refuses_text {w begins more : List Char} (h : ¬ w <+: begins) (hbegins : ¬ begins <+: w)
    (next : Unit → Scan Rule) (rest : List Char) :
    (word w >>= next).Refuses (begins ++ more ++ rest) := by
  rw [List.append_assoc]
  exact (refuses_word h hbegins _).bind next

/-- A rule is read by its own scanner, and the ones before it refuse its text. -/
theorem reads_text (rule : Rule) (rest : List Char) :
    (scanPrimaryKey <|> scanUnique <|> scanForeign).Reads rule.text rule rest := by
  cases rule with
  | primaryKey columns => exact (reads_scanPrimaryKey columns rest).orElse _
  | unique column =>
      have hkey : scanPrimaryKey.Refuses ((Rule.unique column).text ++ rest) :=
        refuses_text (by decide) (by decide) _ rest
      exact hkey.orElse ((reads_scanUnique column rest).orElse _)
  | foreign column table field =>
      have hkey : scanPrimaryKey.Refuses ((Rule.foreign column table field).text ++ rest) :=
        refuses_text (by decide) (by decide) _ rest
      have hunique : scanUnique.Refuses ((Rule.foreign column table field).text ++ rest) :=
        refuses_text (by decide) (by decide) _ rest
      exact hkey.orElse (hunique.orElse (reads_scanForeign column table field rest))

theorem head?_text (rule : Rule) : rule.text.head? = some ' ' := by
  cases rule <;> rfl

/-- The definition of an index, taken apart. -/
theorem toList_definition (tablePrefix : Option String) (table : String) (index : Index) :
    (index.definition tablePrefix table).toList = "CONSTRAINT ".toList ++
      ((quoteIdentifier (index.constraint tablePrefix table).name).toList ++ index.rule.text) := by
  obtain ⟨name, kind⟩ := index
  cases kind <;>
    simp only [Index.definition, String.toList_append, List.append_assoc] <;> rfl

/-- The definition of an index is the text of its constraint. -/
theorem ofText?_definition (tablePrefix : Option String) (table : String) (index : Index) :
    ofText? (index.definition tablePrefix table) = some (index.constraint tablePrefix table) := by
  have hfollows : (index.rule.text ++ []).head? ≠ some '"' := by
    rw [List.append_nil, head?_text]
    decide
  have hrule := (reads_text index.rule []).map
    (Constraint.mk (index.constraint tablePrefix table).name)
  rw [ofText?, toList_definition]
  exact all?_eq_some ((reads_word _ _).seq ((reads_scanName _ hfollows).seq hrule))

end Constraint

end PgCollections
