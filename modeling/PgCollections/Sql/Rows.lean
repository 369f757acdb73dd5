import PgCollections.Schema.FieldType
import PgCollections.Sql.Order
import PgCollections.Sql.Predicate

/-!
# Statements on the rows of a table

The statements that select, insert, update and delete rows. Every value goes into the parameters,
and the placeholders are numbered from `$1` in the order of the text.
-/

namespace PgCollections

/-- Ordering and paging of a selection. -/
structure FindOptions where
  /-- Zero is the same as no limit. -/
  limit : Option Nat := none
  /-- Skips rows, but only together with a limit. -/
  offset : Option Nat := none
  order : List Order := []

/-- What is written for a cell of a row. -/
def Json.asCell (flags : Flags) (v : Json) : Json :=
  match v with
  | .array _ => if flags.arrayAsJson then .string v.text else v
  | _ => v

/-- A clause with one positive number, or nothing. -/
def countClause (keyword : String) : Option Nat → Building String
  | some (n + 1) => do return " " ++ keyword ++ " " ++ (← Building.bind (.nat (n + 1)))
  | _ => return ""

/-- The clauses for the limit and the offset. -/
def FindOptions.pageClauses (options : FindOptions) : Building String := do
  let limit ← countClause "LIMIT" options.limit
  if limit.isEmpty then return ""
  else return limit ++ (← countClause "OFFSET" options.offset)

/-- A parenthesised list. -/
def tuple (parts : List String) : String := "(" ++ ",".intercalate parts ++ ")"

namespace Statement

def select (table : String) (filter : Filter) (options : FindOptions := {}) :
    Except DbError Statement :=
  Building.statement do
    let restriction ← filter.whereClause
    let page ← options.pageClauses
    return "SELECT * FROM " ++ quoteIdentifier table ++ restriction ++ Order.clause options.order ++
      page

/-- Selects the rows with the given ids: a list as the value of a field means each of its items. -/
def selectByIds (table : String) (filter : Filter) (options : FindOptions := {}) :
    Except DbError Statement :=
  select table filter.arraysAsOneOf options

/-- The placeholders for the cells of a row under the given columns; a missing cell is null. -/
def bindRow (flags : Flags) (columns : List String) (row : Row) : Building String := do
  let slots ← Building.bindAll <| columns.map fun column =>
    ((Keyed.get? row column).getD .null).asCell flags
  return tuple slots

def returningClause (columns : List String) : String :=
  if columns.isEmpty then "" else " RETURNING " ++ quoteIdentifiers columns

/-- Inserts rows under the columns of the first one. Without rows there is no statement. -/
def insert (flags : Flags) (table : String) (rows : List Row) (returning : List String := ["id"]) :
    Except DbError (Option Statement) :=
  match rows with
  | [] => .ok none
  | first :: _ =>
    if first.isEmpty then .error (.validation .insertWithoutColumns)
    else
      let columns := Keyed.keys first
      some <$> Building.statement do
        let tuples ← rows.mapM (bindRow flags columns)
        return "INSERT INTO " ++ quoteIdentifier table ++ " (" ++ quoteIdentifiers columns ++
          ") VALUES " ++ ",".intercalate tuples ++ returningClause returning

/-- The assignments of new values to columns. One column has a form of its own, since a row of one
needs a keyword. -/
def setClause (flags : Flags) (changes : Row) : Building String := do
  let slots ← Building.bindAll (changes.map fun (_, v) => v.asCell flags)
  match Keyed.keys changes, slots with
  | [column], [slot] => return quoteIdentifier column ++ " = " ++ slot
  | columns, slots => return "(" ++ quoteIdentifiers columns ++ ") = " ++ tuple slots

def update (flags : Flags) (table : String) (filter : Filter) (changes : Row) :
    Except DbError Statement :=
  if changes.isEmpty then .error (.validation .updateWithoutColumns)
  else
    Building.statement do
      let assignments ← setClause flags changes
      let restriction ← filter.whereClause
      return "UPDATE " ++ quoteIdentifier table ++ " SET " ++ assignments ++ restriction

def delete (table : String) (filter : Filter) : Except DbError Statement :=
  Building.statement do
    let restriction ← filter.whereClause
    return "DELETE FROM " ++ quoteIdentifier table ++ restriction

end Statement

end PgCollections
