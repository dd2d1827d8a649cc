import KeyedSql.Sql.Basic

/-!
# The text of a statement

```text
INSERT INTO T (A, B) VALUES (?1, ?2)
UPDATE T SET A = ?1, V = V + 1 WHERE ID = ?2 AND V = ?3
DELETE FROM T WHERE ID = ?1
SELECT t.A FROM S s INNER JOIN T t ON t.X = s.Y WHERE s.ID = ?1 ORDER BY t.A ASC
```
-/

namespace KeyedSql

/-- A column, after its qualifier and a dot where there is one. -/
def ColumnName.text (column : ColumnName) : String :=
  match column.qualifier with
  | some qualifier => qualifier ++ "." ++ column.name
  | none => column.name

/-- The place of a bound value. -/
def placeholder (n : Nat) : String :=
  "?" ++ toString n

namespace Slot

/-- The column and the bound value of this number, as they stand in a condition or an assignment. -/
def text (slot : Slot) (n : Nat) : String :=
  slot.column.text ++ " = " ++ placeholder n

/-- The texts of consecutive slots, numbered from `start`. -/
def texts (start : Nat) (slots : List Slot) : List String :=
  (slots.zipIdx start).map fun p => p.1.text p.2

end Slot

/-- The joined table with its alias and the columns that must be equal. -/
def JoinedTable.text (joined : JoinedTable) : String :=
  "INNER JOIN " ++ joined.table ++ " " ++ joined.qualifier ++ " ON " ++
    " AND ".intercalate (joined.pairs.map fun p => p.1.text ++ " = " ++ p.2.text)

/-- The table with its alias, then the joined tables. -/
def TableSource.text (source : TableSource) : String :=
  " ".intercalate ((source.table ++ " " ++ source.qualifier) :: source.joins.map (·.text))

/-- The column and the direction to sort by. -/
def OrderTerm.text (term : OrderTerm) : String :=
  term.column.text ++ " " ++ term.direction.keyword

/-- The sort order, if there is anything to sort by. -/
def OrderTerm.clause? (order : List OrderTerm) : Option String :=
  if order.isEmpty then none else some ("ORDER BY " ++ ", ".intercalate (order.map text))

/-- The condition that a row is not marked as cancelled. -/
def ColumnName.notCancelled (column : ColumnName) : String :=
  "(" ++ column.text ++ " IS NULL OR " ++ column.text ++ " = 0)"

namespace Sql

/-- The assignment by which a version column counts a change. -/
def increment (version : String) : String :=
  version ++ " = " ++ version ++ " + 1"

/-- Conditions that must all hold. -/
def whereClause (conditions : List String) : String :=
  "WHERE " ++ " AND ".intercalate conditions

/-- The clause of the conditions, if there are any. -/
def whereClause? (conditions : List String) : Option String :=
  if conditions.isEmpty then none else some (whereClause conditions)

/-- The text of a statement. -/
def text : Sql → String
  | insert table values =>
    "INSERT INTO " ++ table ++
      " (" ++ ", ".intercalate (values.map (·.column.text)) ++ ") VALUES (" ++
      ", ".intercalate ((values.zipIdx 1).map fun p => placeholder p.2) ++ ")"
  | update table assigned version conditions =>
    let assignments := Slot.texts 1 assigned ++ version.toList.map increment
    "UPDATE " ++ table ++ " SET " ++ ", ".intercalate assignments ++ " " ++
      whereClause (Slot.texts (1 + assigned.length) conditions)
  | delete table conditions =>
    "DELETE FROM " ++ table ++ " " ++ whereClause (Slot.texts 1 conditions)
  | select columns source conditions cancelled order =>
    let predicates := Slot.texts 1 conditions ++ cancelled.toList.map (·.notCancelled)
    " ".intercalate <|
      ["SELECT " ++ ", ".intercalate (columns.map (·.text)), "FROM " ++ source.text] ++
      (whereClause? predicates).toList ++ (OrderTerm.clause? order).toList
  | verbatim text => text

end Sql

end KeyedSql
