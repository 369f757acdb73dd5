import PgCollections.Json.Record
import PgCollections.Json.Printer
import PgCollections.Sql.Identifier

/-!
# Sort terms
-/

namespace PgCollections

inductive Direction where
  | asc
  | desc
deriving DecidableEq

namespace Direction

def keyword : Direction → String
  | asc => "ASC"
  | desc => "DESC"

def ofKeyword? (keyword : String) : Option Direction :=
  [asc, desc].find? fun dir => dir.keyword = keyword

end Direction

structure Order where
  key : String
  dir : Direction
deriving DecidableEq

namespace Order

def ofJson? (v : Json) : Option Order := do
  match ← v.record? .strict [⟨["key"], false⟩, ⟨["dir"], false⟩] with
  | [some key, some dir] =>
    let name ← dir.choice? .strict
    return ⟨← key.asString?, ← Direction.ofKeyword? name⟩
  | _ => none

def toJson (order : Order) : Json :=
  .object [("key", .string order.key), ("dir", .string order.dir.keyword)]

def term (order : Order) : String :=
  quoteIdentifier order.key ++ " " ++ order.dir.keyword

/-- The clause that sorts by the terms, or nothing. -/
def clause (orders : List Order) : String :=
  if orders.isEmpty then "" else " ORDER BY " ++ ", ".intercalate (orders.map term)

end Order

end PgCollections
