import Supervision.Toml.Scalar

/-!
# Tables that are dates

A table whose first key is `stampMark` is no table but the date or time that the string under that key writes, whatever
else the table holds. `Value.settled?` puts the dates in the place of such tables, everywhere in a value. Such a string is
written as the dates and times of a document are.
-/

namespace Supervision.Toml

/-- The first key of a table that is a date. -/
def stampMark : String :=
  "$__toml_private_datetime"

/-- Whether a table is a date. -/
def isStamped : Table → Bool
  | (key, _) :: _ => key == stampMark
  | [] => false

/-- The date that a table is by its first entry. -/
def stamp? : Table → Option Value
  | (_, .string s) :: _ => (dateTime? s.toList).map fun text => .dateTime (String.ofList text)
  | _ => none

mutual

/-- A value with dates in the place of the tables that are dates, unless one of them writes none. -/
def Value.settled? : Value → Option Value
  | .array items => (settledItems? items).map .array
  | .table entries => if isStamped entries then stamp? entries else (settledEntries? entries).map .table
  | v => some v

/-- The same for the items of an array. -/
def settledItems? : List Value → Option (List Value)
  | [] => some []
  | v :: rest => do return (← v.settled?) :: (← settledItems? rest)

/-- The same for the entries of a table that is none itself. -/
def settledEntries? : Table → Option Table
  | [] => some []
  | (key, v) :: rest => do return (key, ← v.settled?) :: (← settledEntries? rest)

end

/-- A whole document settled: it is a table and no date. -/
def settledDocument? (table : Table) : Option Table :=
  if isStamped table then none else settledEntries? table

end Supervision.Toml
