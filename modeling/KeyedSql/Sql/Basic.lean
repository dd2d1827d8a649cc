import KeyedSql.Key.StatementKey
import KeyedSql.Schema.ValueType

/-!
# Statements as data

`Sql` is what a statement does: the rows it adds, changes, removes or reads. A value that is bound
when the statement runs is a `Slot`, a column and the binding of its value. Slots carry no numbers:
`Sql.slots` lists them in the order in which the text of the statement holds them, and their places
in that list are their numbers, in the text and in `Sql.parameters` alike.

The factories of the library make inserts, updates, deletes and selects. A factory that the caller
has added may answer a key by a text of its own, which is `Sql.verbatim`.
-/

namespace KeyedSql

/-- A column, with the alias of its table where one is needed. -/
structure ColumnName where
  qualifier : Option String
  name : String
  deriving DecidableEq

/-- How the value of a slot is bound. -/
structure Binding where
  /-- The property, or the path, whose value is bound. -/
  property : String
  type : ValueType
  sqlType : Option String
  typeHandler : Option String
  deriving DecidableEq

/-- A column that is compared with, assigned or filled with a bound value. -/
structure Slot where
  column : ColumnName
  binding : Binding
  deriving DecidableEq

/-- A bound value with its number, counted from one. -/
structure Parameter where
  index : Nat
  binding : Binding
  deriving DecidableEq

/-- A table that is joined to what stands before it, on the equality of columns. -/
structure JoinedTable where
  table : String
  qualifier : String
  /-- The columns of this table, each with the column that it equals. -/
  pairs : List (ColumnName × ColumnName)
  deriving DecidableEq

/-- A table and the tables joined to it. -/
structure TableSource where
  table : String
  qualifier : String
  joins : List JoinedTable
  deriving DecidableEq

/-- A column to sort by. -/
structure OrderTerm where
  column : ColumnName
  direction : SortDirection
  deriving DecidableEq

/-- A statement. -/
inductive Sql where
  /-- Adds a row. -/
  | insert (table : String) (values : List Slot)
  /-- Changes rows; a version column counts the changes. -/
  | update (table : String) (assigned : List Slot) (version : Option String)
      (conditions : List Slot)
  /-- Removes rows. -/
  | delete (table : String) (conditions : List Slot)
  /-- Reads rows, without the ones that a column marks as cancelled. -/
  | select (columns : List ColumnName) (source : TableSource) (conditions : List Slot)
      (cancelled : Option ColumnName) (order : List OrderTerm)
  /-- Reads rows by a text that was given by a factory of the caller's own and binds nothing. -/
  | verbatim (text : String)
  deriving DecidableEq

/-- What kind of statement it is for the database. -/
inductive Command where
  | select
  | insert
  | update
  | delete
  deriving DecidableEq, Repr

namespace Sql

/-- The command of a statement. -/
def command : Sql → Command
  | insert .. => .insert
  | update .. => .update
  | delete .. => .delete
  | select .. | verbatim _ => .select

/-- The bound conditions on the rows that a statement meets. -/
def conditions : Sql → List Slot
  | insert .. | verbatim _ => []
  | update _ _ _ conditions => conditions
  | delete _ conditions => conditions
  | select _ _ conditions _ _ => conditions

/-- The bound values in the order of the text. -/
def slots : Sql → List Slot
  | insert _ values => values
  | update _ assigned _ conditions => assigned ++ conditions
  | delete _ conditions => conditions
  | select _ _ conditions _ _ => conditions
  | verbatim _ => []

/-- The bound values with their numbers. -/
def parameters (sql : Sql) : List Parameter :=
  (sql.slots.zipIdx 1).map fun p => ⟨p.2, p.1.binding⟩

end Sql

end KeyedSql
