import KeyedSql.Proofs.Compile.Dispatch
import KeyedSql.Proofs.Sql.Placeholders

/-!
# Rows that are written and rows that are read

An insert fills the columns of a row, and every finder of the component reads rows of the same
columns in the same order: those that the properties declare, property by property, each time the
plain column before the localized one. So a value that is bound at some place of an insert stands at
this place of the rows that are read, whichever finder reads them.
-/

namespace KeyedSql

open Outcome

/-! ## Declared rows -/

namespace Property

/-- The plain column that a property declares. -/
def plain? (p : Property) : Option RowColumn :=
  p.column.map fun decl => ⟨decl.name, p.name, false⟩

/-- The localized column that a property declares. -/
def localized? (p : Property) : Option RowColumn :=
  p.localizedColumn.map fun decl => ⟨decl.name, p.name, true⟩

/-- The columns that a property adds to a row. -/
def declaredColumns (p : Property) : List RowColumn :=
  p.plain?.toList ++ p.localized?.toList

end Property

/-- The columns of a row, in the order of the declarations. -/
def Component.declaredColumns (c : Component) : List RowColumn :=
  c.properties.flatMap (·.declaredColumns)

namespace Component

variable {c : Component} {p : Property} {columns : List MappedColumn}

theorem map_rowColumn_of_plainColumn {column : Option MappedColumn}
    (h : c.plainColumn p = .ok column) : column.map (·.rowColumn) = p.plain? := by
  cases column with
  | none =>
    rw [Property.plain?, plainColumn_eq_ok_none_iff.1 h]
    rfl
  | some column =>
    obtain ⟨decl, hdecl, -, rfl⟩ := plainColumn_eq_ok_some_iff.1 h
    rw [Property.plain?, hdecl]
    rfl

theorem map_rowColumn_of_localizedColumn {column : Option MappedColumn}
    (h : c.localizedColumn p = .ok column) : column.map (·.rowColumn) = p.localized? := by
  cases column with
  | none =>
    rw [Property.localized?, localizedColumn_eq_ok_none_iff.1 h]
    rfl
  | some column =>
    obtain ⟨decl, hdecl, -, rfl⟩ := localizedColumn_eq_ok_some_iff.1 h
    rw [Property.localized?, hdecl]
    rfl

theorem map_rowColumn_of_columnsOf (h : c.columnsOf p = .ok columns) :
    columns.map (·.rowColumn) = p.declaredColumns := by
  obtain ⟨plain, localized, hplain, hlocalized, rfl⟩ := columnsOf_eq_ok_iff.1 h
  rw [List.map_append, ← Option.toList_map, ← Option.toList_map,
    map_rowColumn_of_plainColumn hplain, map_rowColumn_of_localizedColumn hlocalized]
  rfl

theorem map_rowColumn_of_allColumns (h : c.allColumns = .ok columns) :
    columns.map (·.rowColumn) = c.declaredColumns := by
  obtain ⟨parts, hparts, rfl⟩ := allColumns_eq_ok_iff.1 h
  rw [List.map_flatten, map_eq_map_of_mapM_eq_ok (fun _ _ => map_rowColumn_of_columnsOf) hparts]
  rfl

theorem map_rowColumn_of_rowColumns (h : c.rowColumns = .ok columns) :
    columns.map (·.rowColumn) = c.declaredColumns :=
  map_rowColumn_of_allColumns (rowColumns_eq_ok_iff.1 h).1

end Component

/-! ## Statements on rows -/

namespace Statement

/-- The statement inserts a row of the component: it names the declared columns in their order, has
one place for each and binds there the value of the column's property. -/
structure InsertsRow (s : Statement) (c : Component) : Prop where
  exists_insert : ∃ table values, c.table = some table ∧ s.sql = .insert table values ∧
    values.map (·.column) = c.declaredColumns.map (fun column => ⟨none, column.column⟩) ∧
      s.text = "INSERT INTO " ++ table ++
        " (" ++ ", ".intercalate (c.declaredColumns.map (·.column)) ++ ") VALUES (" ++
          ", ".intercalate ((List.range' 1 c.declaredColumns.length).map placeholder) ++ ")"
  boundProperties_eq : s.boundProperties = c.declaredColumns.map (·.property)

/-- The statement reads rows of the component: it selects the declared columns in their order, all
from the component's own table, and says that its rows consist of them. -/
structure ReadsRows (s : Statement) (c : Component) : Prop where
  exists_select : ∃ source conditions cancelled order rest,
    s.sql = .select (c.declaredColumns.map fun column => ⟨some "t", column.column⟩)
      source conditions cancelled order ∧
    s.text = "SELECT " ++
      ", ".intercalate (c.declaredColumns.map fun column => "t." ++ column.column) ++
        " FROM " ++ rest
  exists_rows_eq : ∃ localized, s.rows = some ⟨c.name, c.declaredColumns, localized⟩

end Statement

namespace MappedColumn

variable (qualifier : Option String) (columns : List MappedColumn)

theorem map_column_ownSlot :
    (columns.map (·.ownSlot qualifier)).map (·.column) =
      (columns.map (·.rowColumn)).map fun column => ⟨qualifier, column.column⟩ := by
  rw [List.map_map, List.map_map]
  rfl

theorem map_under :
    columns.map (·.under qualifier) =
      (columns.map (·.rowColumn)).map fun column => ⟨qualifier, column.column⟩ := by
  rw [List.map_map]
  rfl

theorem map_property_ownSlot :
    (columns.map (·.ownSlot qualifier)).map (·.binding.property) =
      (columns.map (·.rowColumn)).map (·.property) := by
  rw [List.map_map, List.map_map]
  rfl

end MappedColumn

namespace Sql

theorem map_property_parameters (sql : Sql) :
    sql.parameters.map (·.binding.property) = sql.slots.map (·.binding.property) := by
  have hslots : (sql.slots.zipIdx 1).map Prod.fst = sql.slots := List.zipIdx_map_fst 1 sql.slots
  rw [parameters, List.map_map, ← hslots, List.map_map, hslots]
  rfl

theorem text_insert (table : String) (values : List Slot) :
    (insert table values).text =
      "INSERT INTO " ++ table ++ " (" ++ ", ".intercalate ((values.map (·.column)).map (·.text)) ++
        ") VALUES (" ++ ", ".intercalate ((List.range' 1 values.length).map placeholder) ++
          ")" := by
  rw [← map_placeholder_zipIdx, List.map_map]
  rfl

theorem exists_text_select_eq (columns : List ColumnName) (source : TableSource)
    (conditions : List Slot) (cancelled : Option ColumnName) (order : List OrderTerm) :
    ∃ rest, (select columns source conditions cancelled order).text =
      "SELECT " ++ ", ".intercalate (columns.map (·.text)) ++ " FROM " ++ rest := by
  have hspace : " " ++ "FROM " = " FROM " := rfl
  have hfrom : ∀ clauses, ∃ rest,
      " ".intercalate (("FROM " ++ source.text) :: clauses) = "FROM " ++ rest := by
    intro clauses
    cases clauses with
    | nil => exact ⟨source.text, String.intercalate_singleton⟩
    | cons clause clauses =>
      refine ⟨source.text ++ (" " ++ " ".intercalate (clause :: clauses)), ?_⟩
      simp only [String.intercalate_cons_cons, String.append_assoc]
  obtain ⟨rest, hrest⟩ := hfrom ((whereClause? (Slot.texts 1 conditions ++
    cancelled.toList.map (·.notCancelled))).toList ++ (OrderTerm.clause? order).toList)
  refine ⟨rest, ?_⟩
  unfold text
  simp only [List.cons_append, List.nil_append, String.intercalate_cons_cons, hrest, ← hspace,
    String.append_assoc]

end Sql

namespace Environment

variable {env : Environment} {id : String} {type : ComponentType} {s : Statement}

theorem insertsRow_of_insertStatement (h : env.insertStatement id type = .ok s) :
    ∃ c, env.registry.find? type = some c ∧ s.InsertsRow c := by
  obtain ⟨c, table, columns, generation, hc, htable, hcolumns, -, rfl⟩ :=
    insertStatement_eq_ok_iff.1 h
  have hdeclared := Component.map_rowColumn_of_rowColumns hcolumns
  have hnames := MappedColumn.map_column_ownSlot none columns
  rw [hdeclared] at hnames
  have hlength : (columns.map (·.ownSlot none)).length = c.declaredColumns.length := by
    rw [← hdeclared, List.length_map, List.length_map]
  refine ⟨c, Registry.component_eq_ok_iff.1 hc, ?_, ?_⟩
  · refine ⟨table, _, (Component.tableName_eq_ok_iff.1 htable).1, rfl, hnames, ?_⟩
    show Sql.text (.insert ..) = _
    rw [Sql.text_insert, hnames, hlength, List.map_map]
    rfl
  · show List.map _ (Sql.parameters _) = _
    rw [Sql.map_property_parameters, ← hdeclared]
    exact MappedColumn.map_property_ownSlot none columns

theorem readsRows_of_findStatement {c : Component} {plan : FindPlan} {cache : CacheUse}
    (h : env.findStatement id c plan cache = .ok s) : s.ReadsRows c := by
  obtain ⟨cancelled, columns, shape, order, -, hcolumns, hshape, -, rfl⟩ :=
    findStatement_eq_ok_iff.1 h
  have hdeclared := Component.map_rowColumn_of_rowColumns hcolumns
  have hnames := MappedColumn.map_under (some readAlias) columns
  rw [hdeclared] at hnames
  have htexts : (columns.map (·.under (some readAlias))).map (·.text) =
      c.declaredColumns.map fun column => "t." ++ column.column := by
    rw [hnames, List.map_map]
    rfl
  obtain ⟨rest, hrest⟩ := Sql.exists_text_select_eq (columns.map (·.under (some readAlias)))
    plan.source plan.conditions cancelled order
  rw [htexts] at hrest
  obtain ⟨localized, -, hshape⟩ := bind_eq_ok_iff.1 hshape
  refine ⟨⟨plan.source, plan.conditions, cancelled, order, rest, ?_, hrest⟩, ⟨localized, ?_⟩⟩
  · show Sql.select .. = _
    rw [hnames]
    rfl
  · rw [← hdeclared]
    exact congrArg some (pure_eq_ok_iff.1 hshape).symm

/-- Every finder looks its component up, knows its part in caching and carries out a plan. -/
theorem exists_findStatement_of_statementOf {key : StatementKey}
    (hkey : key.operation ∈ StatementFactory.find.operations) (h : env.statementOf id key = .ok s) :
    ∃ c plan use cache, env.registry.component key.component = .ok c ∧
      env.readCacheUse key.component = .ok use ∧ env.findStatement id c plan cache = .ok s := by
  obtain ⟨type, request⟩ := key
  cases request with
  | findEntityById =>
    obtain ⟨c, use, identity, source, hc, huse, -, -, h⟩ := findByIdStatement_eq_ok_iff.1 h
    exact ⟨c, _, use, _, hc, huse, h⟩
  | findComponentsBy properties orderBy ignoreCancel =>
    obtain ⟨c, use, slots, source, hc, huse, -, -, h⟩ := findByStatement_eq_ok_iff.1 h
    exact ⟨c, _, use, _, hc, huse, h⟩
  | findComponentsByJoinTable search orderBy ignoreCancel =>
    obtain ⟨c, use, source, slots, hc, huse, -, -, h⟩ := findByJoinStatement_eq_ok_iff.1 h
    exact ⟨c, _, use, _, hc, huse, h⟩
  | insert | update | delete | deleteEntityById | deleteComponentsBy | findNlsColumn =>
    simp [StatementKey.operation, Request.operation, StatementFactory.find] at hkey

/-- Whatever a finder looks for, it reads whole rows of its component. -/
theorem readsRows_of_statementOf {key : StatementKey}
    (hkey : key.operation ∈ StatementFactory.find.operations) (h : env.statementOf id key = .ok s) :
    ∃ c, env.registry.find? key.component = some c ∧ s.ReadsRows c := by
  obtain ⟨c, plan, use, cache, hc, -, h⟩ := exists_findStatement_of_statementOf hkey h
  exact ⟨c, Registry.component_eq_ok_iff.1 hc, readsRows_of_findStatement h⟩

end Environment

namespace StatementFactory

variable {env : Environment} {type : ComponentType} {request : Request}
  {insertion finder : Statement}

/-- Inserts fill, and finders select, the declared columns of their component in the order of the
declarations. -/
theorem rows_of_dispatch
    (hinsertion : dispatch defaults env (StatementKey.mk type .insert).text = .ok insertion)
    (hrequest : request.operation ∈ find.operations)
    (hfinder : dispatch defaults env (StatementKey.mk type request).text = .ok finder) :
    ∃ c, env.registry.find? type = some c ∧ insertion.InsertsRow c ∧ finder.ReadsRows c := by
  have hinsertion := (dispatch_text_eq_ok_iff.1 hinsertion).2
  have hfinder := (dispatch_text_eq_ok_iff.1 hfinder).2
  obtain ⟨c, hc, hinserts⟩ := Environment.insertsRow_of_insertStatement hinsertion
  obtain ⟨c', hc', hreads⟩ :=
    @Environment.readsRows_of_statementOf env _ finder ⟨type, request⟩ hrequest hfinder
  obtain rfl : c = c' := Option.some.inj (hc.symm.trans hc')
  exact ⟨c, hc, hinserts, hreads⟩

/-- Trains are inserted with their localized labels, and a search by code reads the labels too. -/
theorem rows_of_dispatch_railway :
    ∃ insertion finder, dispatch defaults .railway "a.Train/insert" = .ok insertion ∧
      dispatch defaults .railway "a.Train/findComponentsBy?properties=code" = .ok finder ∧
      insertion.text = "INSERT INTO TRAIN (ID, CODE, LABEL, VERSION) VALUES (?1, ?2, ?3, ?4)" ∧
      finder.text = "SELECT t.ID, t.CODE, t.LABEL, t.VERSION FROM TRAIN t WHERE t.CODE = ?1" ∧
      Component.train.declaredColumns = [⟨"ID", "id", false⟩, ⟨"CODE", "code", false⟩,
        ⟨"LABEL", "label", true⟩, ⟨"VERSION", "version", false⟩] ∧
      insertion.InsertsRow .train ∧ finder.ReadsRows .train := by
  have hinserted : (dispatch defaults .railway "a.Train/insert").map (·.text) =
      .ok "INSERT INTO TRAIN (ID, CODE, LABEL, VERSION) VALUES (?1, ?2, ?3, ?4)" := by
    decide +kernel
  have hfound : (dispatch defaults .railway "a.Train/findComponentsBy?properties=code").map
      (·.text) = .ok "SELECT t.ID, t.CODE, t.LABEL, t.VERSION FROM TRAIN t WHERE t.CODE = ?1" := by
    decide +kernel
  obtain ⟨insertion, hinsertion, hinsertion'⟩ := map_eq_ok_iff.1 hinserted
  obtain ⟨finder, hfinder, hfinder'⟩ := map_eq_ok_iff.1 hfound
  refine ⟨insertion, finder, hinsertion, hfinder, hinsertion', hfinder', by decide, ?_⟩
  have hinsert : StatementKey.text ⟨Component.train.name, .insert⟩ = "a.Train/insert" := by
    decide +kernel
  have hsearch : StatementKey.text
      ⟨Component.train.name, .findComponentsBy [.ofIdentifier ⟨"code", by decide⟩] [] false⟩ =
        "a.Train/findComponentsBy?properties=code" := by
    decide +kernel
  rw [← hinsert] at hinsertion
  rw [← hsearch] at hfinder
  obtain ⟨c, hc, hrows⟩ := rows_of_dispatch hinsertion (by decide) hfinder
  have htrain : Environment.railway.registry.find? Component.train.name = some .train := by
    decide
  obtain rfl := Option.some.inj (htrain.symm.trans hc)
  exact hrows

end StatementFactory

end KeyedSql
