import KeyedSql.Sql.Text

/-!
# The clauses of a statement

A statement with bound conditions is written in three parts: what it does and where, the clause of
its conditions, and the sort order. The bound conditions come first in their clause, in the order of
their numbers; the only other condition leaves out cancelled rows.
-/

namespace KeyedSql

namespace Sql

/-- The values that are bound before those of the conditions. -/
def assigned : Sql → List Slot
  | insert _ values => values
  | update _ assigned _ _ => assigned
  | delete .. | select .. | verbatim _ => []

/-- What stands before the clause of the conditions. -/
def lead : Sql → String
  | update table assigned version _ =>
    "UPDATE " ++ table ++ " SET " ++
      ", ".intercalate (Slot.texts 1 assigned ++ version.toList.map increment)
  | delete table _ => "DELETE FROM " ++ table
  | select columns source _ _ _ =>
    "SELECT " ++ ", ".intercalate (columns.map (·.text)) ++ " FROM " ++ source.text
  | insert .. | verbatim _ => ""

/-- The conditions that bind nothing. -/
def unbound : Sql → List String
  | select _ _ _ cancelled _ => cancelled.toList.map (·.notCancelled)
  | insert .. | update .. | delete .. | verbatim _ => []

/-- The sort order, behind the clause of the conditions. -/
def sorting : Sql → String
  | select _ _ _ _ order =>
    if order.isEmpty then "" else " ORDER BY " ++ ", ".intercalate (order.map (·.text))
  | insert .. | update .. | delete .. | verbatim _ => ""

/-- Cancelled rows may be left out where rows are read, and nothing else. -/
theorem exists_unbound_eq (sql : Sql) :
    ∃ cancelled : Option ColumnName, (sql.command ≠ .select → cancelled = none) ∧
      sql.unbound = cancelled.toList.map fun column =>
        "(" ++ column.text ++ " IS NULL OR " ++ column.text ++ " = 0)" := by
  cases sql with
  | select columns source conditions cancelled order =>
    exact ⟨cancelled, fun h => absurd rfl h, rfl⟩
  | insert | update | delete | verbatim => exact ⟨none, fun _ => rfl, rfl⟩

/-- Nothing but the sort order stands behind the clause of the conditions. -/
theorem exists_sorting_eq (sql : Sql) :
    ∃ order : List OrderTerm, sql.sorting =
      if order.isEmpty then "" else " ORDER BY " ++ ", ".intercalate (order.map (·.text)) := by
  cases sql with
  | select columns source conditions cancelled order => exact ⟨order, rfl⟩
  | insert | update | delete | verbatim => exact ⟨[], rfl⟩

theorem slots_eq (sql : Sql) : sql.slots = sql.assigned ++ sql.conditions := by
  cases sql <;> simp [slots, assigned, conditions]

/-- The text of a statement with bound conditions. -/
theorem text_eq_of_conditions_ne_nil {sql : Sql} (h : sql.conditions ≠ []) :
    sql.text = sql.lead ++ " WHERE " ++
      " AND ".intercalate (Slot.texts (1 + sql.assigned.length) sql.conditions ++ sql.unbound) ++
        sql.sorting := by
  have hjoin : ∀ {s t word : String}, s ++ t = word → ∀ rest, s ++ (t ++ rest) = word ++ rest := by
    rintro s t _ rfl rest
    exact String.append_assoc.symm
  have hwhere := hjoin (show " " ++ "WHERE " = " WHERE " from rfl)
  have hfrom := hjoin (show " " ++ "FROM " = " FROM " from rfl)
  have horder := hjoin (show " " ++ "ORDER BY " = " ORDER BY " from rfl)
  cases sql with
  | insert table values => exact absurd rfl h
  | verbatim text => exact absurd rfl h
  | update table assigned version conditions =>
    unfold text lead unbound sorting
    simp only [Sql.assigned, Sql.conditions, whereClause, hwhere, List.append_nil,
      String.append_empty, String.append_assoc]
  | delete table conditions =>
    unfold text lead unbound sorting
    simp only [Sql.assigned, Sql.conditions, whereClause, hwhere, List.append_nil,
      String.append_empty, String.append_assoc, List.length_nil]
  | select columns source conditions cancelled order =>
    have hpredicates : (Slot.texts 1 conditions ++ cancelled.toList.map (·.notCancelled)).isEmpty =
        false := by
      cases conditions with
      | nil => exact absurd rfl h
      | cons slot slots => rfl
    unfold text lead unbound sorting
    simp only [whereClause?, hpredicates, Bool.false_eq_true, if_false, OrderTerm.clause?,
      Sql.assigned, Sql.conditions, List.length_nil]
    split <;>
      simp only [Option.toList_some, Option.toList_none, List.cons_append, List.nil_append,
        List.append_nil, String.intercalate_cons_cons, String.intercalate_singleton, whereClause,
        hfrom, hwhere, horder, String.append_assoc, String.append_empty]

end Sql

end KeyedSql
