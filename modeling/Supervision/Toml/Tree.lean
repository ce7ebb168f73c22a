import Supervision.Toml.Value

/-!
# Tables under construction

While a document is read its tables grow, and how a table came about decides what may still be added to it. A table that a
header names is closed to other headers of the same name; one that dotted keys made grows by dotted keys only; one that
was merely on the way to another may still be named by a header once. Values, arrays and tables written in one piece are
closed.
-/

namespace Supervision.Toml

/-- How a table came about. -/
inductive Making where
  /-- A header names it. -/
  | named
  /-- It is on the way to a table that a header names. -/
  | implied
  /-- It is on the way to a key with dots. -/
  | dotted
deriving DecidableEq, Repr

/-- What stands under a key while a document is read. -/
inductive Node where
  | value (v : Value)
  | table (making : Making) (entries : List (String × Node))
  /-- The tables that headers in double brackets append, oldest first. -/
  | tables (items : List (List (String × Node)))
deriving Inhabited

/-- The entries of a table under construction. -/
abbrev Entries := List (String × Node)

namespace Entries

/-- What stands under a key. -/
def find? (entries : Entries) (key : String) : Option Node :=
  entries.lookup key

/-- Puts something under a key, in the place of what was there. -/
def put (entries : Entries) (key : String) (node : Node) : Entries :=
  match entries with
  | [] => [(key, node)]
  | (k, n) :: rest => if k = key then (k, node) :: rest else (k, n) :: put rest key node

/-- The entries without the one under a key. -/
def erase (entries : Entries) (key : String) : Entries :=
  entries.filter fun (k, _) => k != key

/-- Changes the table that a step of a path leads to: a table, or the last one of several. A missing table is made. -/
def alter (making : Making) (admits : Making → Bool) (entries : Entries) (key : String) (f : Entries → Option Entries) :
    Option Entries :=
  match entries.find? key with
  | none => (f []).map fun t => entries.put key (.table making t)
  | some (.table m t) => if admits m then (f t).map fun t => entries.put key (.table m t) else none
  | some (.tables items) =>
    match items.getLast? with
    | some t => (f t).map fun t => entries.put key (.tables (items.dropLast ++ [t]))
    | none => none
  | some (.value _) => none

/-- Names a table by a header. One that was merely on the way to another moves behind the entries around it. -/
def openTable (entries : Entries) : List String → Option Entries
  | [] => none
  | [key] =>
    match entries.find? key with
    | none => some (entries.put key (.table .named []))
    | some (.table .implied t) => some ((entries.erase key).put key (.table .named t))
    | some _ => none
  | key :: path => entries.alter .implied (fun _ => true) key fun t => openTable t path

/-- Appends a table by a header in double brackets. -/
def appendTable (entries : Entries) : List String → Option Entries
  | [] => none
  | [key] =>
    match entries.find? key with
    | none => some (entries.put key (.tables [[]]))
    | some (.tables items) => some (entries.put key (.tables (items ++ [[]])))
    | some _ => none
  | key :: path => entries.alter .implied (fun _ => true) key fun t => appendTable t path

/-- Puts a value under a new key. -/
def add (entries : Entries) (key : String) (v : Value) : Option Entries :=
  match entries.find? key with
  | none => some (entries.put key (.value v))
  | some _ => none

/-- Whether the last step of a key with dots leads to a table that takes keys with dots. -/
def takesDotted (entries : Entries) (key : String) : Bool :=
  match entries.find? key with
  | none => true
  | some (.table m _) => m == .dotted
  | some _ => false

/-- Puts a value under a key with dots. -/
def assign (entries : Entries) : List String → Value → Option Entries
  | [], _ => none
  | [key], v => entries.add key v
  | [table, key], v =>
    if entries.takesDotted table then entries.alter .dotted (· == .dotted) table fun t => t.add key v else none
  | key :: path, v => entries.alter .dotted (· != .named) key fun t => assign t path v

/-- Does something to the table that the last header named. -/
def within (entries : Entries) (header : List String) (f : Entries → Option Entries) : Option Entries :=
  match header with
  | [] => f entries
  | key :: path => entries.alter .implied (fun _ => true) key fun t => within t path f

end Entries

mutual

/-- A node of a finished document. -/
def Node.toValue : Node → Value
  | .value v => v
  | .table _ entries => .table (tableOf entries)
  | .tables items => .array (tablesOf items)

/-- The table of finished entries. -/
def tableOf : List (String × Node) → Table
  | [] => []
  | (key, node) :: rest => (key, node.toValue) :: tableOf rest

/-- The values of finished tables. -/
def tablesOf : List (List (String × Node)) → List Value
  | [] => []
  | entries :: rest => .table (tableOf entries) :: tablesOf rest

end

end Supervision.Toml
