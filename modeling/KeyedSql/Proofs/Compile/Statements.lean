import KeyedSql.Compile.Factory
import KeyedSql.Proofs.Schema.Columns
import KeyedSql.Proofs.Sql.Clauses

/-!
# What a compiled statement is

For every way of compiling, one lemma says when there is a statement and which one it is. The
columns whose values a request binds are then named without the statement, by
`Component.assignedColumns` and `Registry.conditionColumns`, and every statement has its slots in
the order of these columns.
-/

namespace KeyedSql

open Outcome

/-- The statement of a request, whichever factory compiles it. -/
def Environment.statementOf (env : Environment) (id : String) (key : StatementKey) :
    Except ConfigError Statement :=
  match key.request with
  | .insert => env.insertStatement id key.component
  | .update nlsProperties => env.updateStatement id key.component nlsProperties
  | .delete => env.deleteStatement id key.component .unchangedEntity
  | .deleteEntityById => env.deleteStatement id key.component .entity
  | .deleteComponentsBy properties => env.deleteStatement id key.component (.matching properties)
  | .findEntityById => env.findByIdStatement id key.component
  | .findComponentsBy properties orderBy ignoreCancel =>
    env.findByStatement id key.component properties orderBy ignoreCancel
  | .findComponentsByJoinTable search orderBy ignoreCancel =>
    env.findByJoinStatement id key.component search orderBy ignoreCancel
  | .findNlsColumn property => env.localizedColumnStatement id key.component property

/-- The request of a delete. -/
def DeleteScope.request : DeleteScope → Request
  | unchangedEntity => .delete
  | entity => .deleteEntityById
  | matching properties => .deleteComponentsBy properties

/-- The components whose tables a request names. -/
def StatementKey.types (key : StatementKey) : List ComponentType :=
  key.component :: match key.request with
    | .findComponentsByJoinTable search .. => [search.source]
    | _ => []

/-- A component of the type is registered, and its table has a name. -/
def Registry.HasTable (r : Registry) (type : ComponentType) : Prop :=
  ∃ c table, r.find? type = some c ∧ c.table = some table ∧ Text.isBlank table = false

/-! ## Parts of statements -/

section Parts

variable {r : Registry} {c : Component} {type : ComponentType} {qualifier : Option String}

theorem Component.updatableColumns_eq_ok_iff {columns : List MappedColumn} :
    c.updatableColumns = .ok columns ↔
      ∃ plain, (c.properties.filter fun p => !(p.isIdentity || p.version)).mapM c.plainColumn =
        .ok plain ∧ plain.filterMap id = columns := by
  simp only [updatableColumns, bind_eq_ok_iff, pure_eq_ok_iff]

theorem Component.declaresColumn_of_mem_updatableColumns {columns : List MappedColumn}
    (h : c.updatableColumns = .ok columns) {column : MappedColumn} (hcolumn : column ∈ columns) :
    c.DeclaresColumn column := by
  obtain ⟨plain, hplain, rfl⟩ := updatableColumns_eq_ok_iff.1 h
  obtain ⟨found, hfound, rfl⟩ := List.mem_filterMap.1 hcolumn
  obtain ⟨p, hp, hp'⟩ := (mem_iff_of_mapM_eq_ok hplain).1 hfound
  exact declaresColumn_of_plainColumn (List.mem_of_mem_filter hp) hp'

theorem Component.namedLocalizedColumn_eq_ok_iff {name : Identifier} {column : MappedColumn} :
    c.namedLocalizedColumn name = .ok column ↔
      ∃ p, c.property name.text = .ok p ∧ c.localizedColumn p = .ok (some column) := by
  simp only [namedLocalizedColumn, bind_eq_ok_iff, requiredLocalizedColumn_eq_ok_iff]

theorem Registry.pathSlots_eq_ok_iff {paths : List PropertyPath} {slots : List Slot} :
    r.pathSlots type qualifier paths = .ok slots ↔
      ∃ columns, paths.mapM (r.columnAt type) = .ok columns ∧
        List.zipWith (fun path column => column.slot qualifier path.text) paths columns = slots :=
  mapM_return_eq_ok_iff

theorem Component.targetSource_eq_ok_iff {source : TableSource} :
    c.targetSource = .ok source ↔
      ∃ table, c.tableName = .ok table ∧ TableSource.mk table readAlias [] = source := by
  simp only [targetSource, bind_eq_ok_iff, pure_eq_ok_iff]

theorem Component.cancelledColumn_eq_ok_iff {ignoreCancel : Bool} {cancelled : Option ColumnName} :
    c.cancelledColumn ignoreCancel = .ok cancelled ↔
      (ignoreCancel = false ∧ cancelled = none) ∨
        ignoreCancel = true ∧
          ∃ column, c.cancelColumn = .ok column ∧
            some (column.under (some readAlias)) = cancelled := by
  cases ignoreCancel with
  | false => simp [cancelledColumn, eq_comm]
  | true =>
    simp only [cancelledColumn, if_true, bind_eq_ok_iff, pure_eq_ok_iff]
    simp

theorem pairUp_eq_ok_iff {place : JoinPlace} {columns previous : List ColumnName}
    {pairs : List (ColumnName × ColumnName)} :
    pairUp place columns previous = .ok pairs ↔
      columns.length = previous.length ∧ columns.zip previous = pairs := by
  unfold pairUp
  split <;> simp_all

/-- Columns of a join table, as a key lists them. -/
def Identifier.columnsUnder (qualifier : String) (names : List Identifier) : List ColumnName :=
  names.map fun name => ⟨some qualifier, name.text⟩

theorem joinSteps_cons_eq_ok_iff {number : Nat} {previous : List ColumnName} {step : JoinStep}
    {steps : List JoinStep} {joins : List JoinedTable × List ColumnName} :
    joinSteps number previous (step :: steps) = .ok joins ↔
      ∃ pairs rest,
        pairUp (.step number step.table)
          (Identifier.columnsUnder (joinAlias number) step.sourceColumns) previous = .ok pairs ∧
          joinSteps (number + 1)
            (Identifier.columnsUnder (joinAlias number) step.targetColumns) steps = .ok rest ∧
            (⟨step.table.text, joinAlias number, pairs⟩ :: rest.1, rest.2) = joins := by
  simp only [joinSteps, bind_eq_ok_iff, pure_eq_ok_iff, exists_and_left, Identifier.columnsUnder]

theorem Registry.joinSource_eq_ok_iff {search : JoinSearch} {source : TableSource} :
    r.joinSource c search = .ok source ↔
      ∃ start sourceTable targetTable columns joins columns' pairs,
        r.component search.source = .ok start ∧ start.tableName = .ok sourceTable ∧
          c.tableName = .ok targetTable ∧
            r.pathColumns search.source startAlias search.sourceProperties = .ok columns ∧
              joinSteps 1 columns search.joins = .ok joins ∧
                r.pathColumns c.name readAlias search.targetProperties = .ok columns' ∧
                  pairUp (.target c.name) columns' joins.2 = .ok pairs ∧
                    TableSource.mk sourceTable startAlias
                      (joins.1 ++ [⟨targetTable, readAlias, pairs⟩]) = source := by
  simp only [joinSource, bind_eq_ok_iff, pure_eq_ok_iff, exists_and_left]

end Parts

/-! ## Statements -/

namespace Environment

variable {env : Environment} {id : String} {type : ComponentType} {s : Statement}

theorem insertStatement_eq_ok_iff :
    env.insertStatement id type = .ok s ↔
      ∃ c table columns generation, env.registry.component type = .ok c ∧
        c.tableName = .ok table ∧ c.rowColumns = .ok columns ∧
          env.generatedKey id c = .ok generation ∧
            .ofWrite id (.insert table (columns.map (·.ownSlot none))) generation
              (env.writeCacheUse type) = s := by
  simp only [insertStatement, bind_eq_ok_iff, pure_eq_ok_iff, exists_and_left]

theorem updateSql_eq_ok_iff {nlsProperties : List Identifier} {sql : Sql} :
    env.updateSql type nlsProperties = .ok sql ↔
      ∃ c table identity version plain localized, env.registry.component type = .ok c ∧
        c.tableName = .ok table ∧ c.identifyingColumns = .ok identity ∧
          c.versionColumn = .ok version ∧ c.updatableColumns = .ok plain ∧
            nlsProperties.mapM c.namedLocalizedColumn = .ok localized ∧
              ¬ (plain ++ localized = [] ∧ version = none) ∧
                .update table ((plain ++ localized).map (·.ownSlot none)) (version.map (·.name))
                  ((identity ++ version.toList).map (·.ownSlot none)) = sql := by
  simp only [updateSql, bind_eq_ok_iff, pure_eq_ok_iff, guard_eq_ok_iff, exists_and_left,
    Bool.and_eq_true, List.isEmpty_iff, List.map_eq_nil_iff, Option.isNone_iff_eq_none]

theorem updateStatement_eq_ok_iff {nlsProperties : Option (List Identifier)} :
    env.updateStatement id type nlsProperties = .ok s ↔
      ∃ sql, env.updateSql type (nlsProperties.getD []) = .ok sql ∧
        .ofWrite id sql none (env.writeCacheUse type) = s := by
  simp only [updateStatement, bind_eq_ok_iff, pure_eq_ok_iff]

theorem deleteStatement_eq_ok_iff {scope : DeleteScope} :
    env.deleteStatement id type scope = .ok s ↔
      ∃ c table conditions, env.registry.component type = .ok c ∧ c.tableName = .ok table ∧
        env.deleteConditions c scope = .ok conditions ∧
          .ofWrite id (.delete table conditions) none (env.writeCacheUse type) = s := by
  simp only [deleteStatement, bind_eq_ok_iff, pure_eq_ok_iff, exists_and_left]

theorem findStatement_eq_ok_iff {c : Component} {plan : FindPlan} {cache : CacheUse} :
    env.findStatement id c plan cache = .ok s ↔
      ∃ cancelled columns shape order, c.cancelledColumn plan.ignoreCancel = .ok cancelled ∧
        c.rowColumns = .ok columns ∧ env.rowShape c columns = .ok shape ∧
          env.registry.orderTerms c.name (some readAlias) plan.orderBy = .ok order ∧
            .ofRead id (.select (columns.map (·.under (some readAlias))) plan.source
              plan.conditions cancelled order) shape cache = s := by
  simp only [findStatement, bind_eq_ok_iff, pure_eq_ok_iff, exists_and_left]

theorem findByIdStatement_eq_ok_iff :
    env.findByIdStatement id type = .ok s ↔
      ∃ c cache identity source, env.registry.component type = .ok c ∧
        env.readCacheUse type = .ok cache ∧ c.identifyingColumns = .ok identity ∧
          c.targetSource = .ok source ∧
            env.findStatement id c
              ⟨source, identity.map (·.ownSlot (some readAlias)), [], false⟩ cache = .ok s := by
  simp only [findByIdStatement, bind_eq_ok_iff, exists_and_left]

theorem findByStatement_eq_ok_iff {properties : List PropertyPath} {orderBy : List OrderEntry}
    {ignoreCancel : Bool} :
    env.findByStatement id type properties orderBy ignoreCancel = .ok s ↔
      ∃ c cache conditions source, env.registry.component type = .ok c ∧
        env.readCacheUse type = .ok cache ∧
          env.registry.pathSlots type (some readAlias) properties = .ok conditions ∧
            c.targetSource = .ok source ∧
              env.findStatement id c ⟨source, conditions, orderBy, ignoreCancel⟩ cache = .ok s := by
  simp only [findByStatement, bind_eq_ok_iff, exists_and_left]

theorem findByJoinStatement_eq_ok_iff {search : JoinSearch} {orderBy : List OrderEntry}
    {ignoreCancel : Bool} :
    env.findByJoinStatement id type search orderBy ignoreCancel = .ok s ↔
      ∃ c cache source conditions, env.registry.component type = .ok c ∧
        env.readCacheUse type = .ok cache ∧ env.registry.joinSource c search = .ok source ∧
          env.registry.pathSlots search.source (some startAlias) search.sourceProperties =
            .ok conditions ∧
            env.findStatement id c ⟨source, conditions, orderBy, ignoreCancel⟩
              (if search.source = type then cache else cache.invalidatedAlsoBy search.source) =
                .ok s := by
  simp only [findByJoinStatement, bind_eq_ok_iff, exists_and_left]

theorem localizedColumnStatement_eq_ok_iff {property : Identifier} :
    env.localizedColumnStatement id type property = .ok s ↔
      ∃ c table p column identity cache, env.registry.component type = .ok c ∧
        c.tableName = .ok table ∧ c.property property.text = .ok p ∧
          c.localizedColumn p = .ok (some column) ∧ c.identifyingColumns = .ok identity ∧
            env.readCacheUse type = .ok cache ∧
              .ofRead id (.select [column.under (some readAlias)] ⟨table, readAlias, []⟩
                (identity.map (·.ownSlot (some readAlias))) none [])
                ⟨c.name, [column.rowColumn], true⟩ cache = s := by
  simp only [localizedColumnStatement, bind_eq_ok_iff, pure_eq_ok_iff,
    Component.requiredLocalizedColumn_eq_ok_iff, exists_and_left]

end Environment

/-! ## Bound columns -/

/-- The columns to which a request assigns bound values. -/
def Component.assignedColumns (c : Component) : Request → Except ConfigError (List MappedColumn)
  | .insert => c.rowColumns
  | .update nlsProperties => do
    let plain ← c.updatableColumns
    let localized ← (nlsProperties.getD []).mapM c.namedLocalizedColumn
    return plain ++ localized
  | .delete | .deleteEntityById | .deleteComponentsBy _ | .findEntityById | .findComponentsBy ..
  | .findComponentsByJoinTable .. | .findNlsColumn _ => .ok []

/-- The columns that a request compares with bound values. -/
def Registry.conditionColumns (r : Registry) (c : Component) :
    Request → Except ConfigError (List MappedColumn)
  | .insert => .ok []
  | .update _ | .delete => do
    let identity ← c.identifyingColumns
    let version ← c.versionColumn
    return identity ++ version.toList
  | .deleteEntityById | .findEntityById | .findNlsColumn _ => c.identifyingColumns
  | .deleteComponentsBy properties | .findComponentsBy properties .. =>
    properties.mapM (r.columnAt c.name)
  | .findComponentsByJoinTable search .. =>
    search.sourceProperties.mapM (r.columnAt search.source)

/-- The alias under which a request names the columns that it compares or assigns. -/
def Request.boundQualifier : Request → Option String
  | .insert | .update _ | .delete | .deleteEntityById | .deleteComponentsBy _ => none
  | .findEntityById | .findComponentsBy .. | .findNlsColumn _ => some readAlias
  | .findComponentsByJoinTable .. => some startAlias

/-- The slot binds a value for the column, which is named under the qualifier. -/
def Slot.IsFor (qualifier : Option String) (column : MappedColumn) (slot : Slot) : Prop :=
  ∃ property, column.slot qualifier property = slot

/-- The bound values of a statement are those of the columns that its request assigns and compares,
in this order. -/
structure Sql.Binds (r : Registry) (c : Component) (request : Request) (sql : Sql) : Prop where
  assigned : ∃ columns, c.assignedColumns request = .ok columns ∧
    List.Forall₂ (Slot.IsFor request.boundQualifier) columns sql.assigned
  conditions : ∃ columns, r.conditionColumns c request = .ok columns ∧
    List.Forall₂ (Slot.IsFor request.boundQualifier) columns sql.conditions

theorem Component.declaresColumn_of_mem_assignedColumns {c : Component} {request : Request}
    {columns : List MappedColumn} (h : c.assignedColumns request = .ok columns) :
    ∀ column ∈ columns, c.DeclaresColumn column := by
  intro column hcolumn
  cases request with
  | insert => exact declaresColumn_of_mem_rowColumns h hcolumn
  | update nlsProperties =>
    obtain ⟨plain, hplain, h⟩ := bind_eq_ok_iff.1 h
    obtain ⟨localized, hlocalized, h⟩ := bind_eq_ok_iff.1 h
    cases h
    rcases List.mem_append.1 hcolumn with hcolumn | hcolumn
    · exact declaresColumn_of_mem_updatableColumns hplain hcolumn
    · obtain ⟨name, -, hname⟩ := (mem_iff_of_mapM_eq_ok hlocalized).1 hcolumn
      obtain ⟨p, hp, hname⟩ := namedLocalizedColumn_eq_ok_iff.1 hname
      exact declaresColumn_of_localizedColumn (mem_of_property hp) hname
  | delete | deleteEntityById | deleteComponentsBy | findEntityById | findComponentsBy
  | findComponentsByJoinTable | findNlsColumn =>
    cases h
    cases hcolumn

theorem Registry.declaresColumn_of_mem_conditionColumns {r : Registry} {c : Component}
    (hc : c ∈ r.components) {request : Request} {columns : List MappedColumn}
    (h : r.conditionColumns c request = .ok columns) :
    ∀ column ∈ columns, r.DeclaresColumn column := by
  intro column hcolumn
  cases request with
  | insert =>
    cases h
    cases hcolumn
  | update | delete =>
    obtain ⟨identity, hidentity, h⟩ := bind_eq_ok_iff.1 h
    obtain ⟨version, hversion, h⟩ := bind_eq_ok_iff.1 h
    cases h
    rcases List.mem_append.1 hcolumn with hcolumn | hcolumn
    · exact ⟨c, hc, Component.declaresColumn_of_mem_identifyingColumns hidentity hcolumn⟩
    · rw [Option.mem_toList.1 hcolumn] at hversion
      exact ⟨c, hc, Component.declaresColumn_of_versionColumn hversion⟩
  | deleteEntityById | findEntityById | findNlsColumn =>
    exact ⟨c, hc, Component.declaresColumn_of_mem_identifyingColumns h hcolumn⟩
  | deleteComponentsBy | findComponentsBy | findComponentsByJoinTable =>
    obtain ⟨path, -, hpath⟩ := (mem_iff_of_mapM_eq_ok h).1 hcolumn
    exact declaresColumn_of_columnAt hpath

theorem Slot.forall₂_isFor_ownSlot (qualifier : Option String) (columns : List MappedColumn) :
    List.Forall₂ (IsFor qualifier) columns (columns.map (·.ownSlot qualifier)) := by
  rw [List.forall₂_map_right_iff]
  exact List.forall₂_same.2 fun column _ => ⟨column.property.name, rfl⟩

theorem Registry.forall₂_isFor_of_pathSlots {r : Registry} {type : ComponentType}
    {qualifier : Option String} {paths : List PropertyPath} {slots : List Slot}
    (h : r.pathSlots type qualifier paths = .ok slots) :
    ∃ columns, paths.mapM (r.columnAt type) = .ok columns ∧
      List.Forall₂ (Slot.IsFor qualifier) columns slots := by
  obtain ⟨columns, hcolumns, rfl⟩ := pathSlots_eq_ok_iff.1 h
  refine ⟨columns, hcolumns, ?_⟩
  have hpaired := mapM_eq_ok_iff.1 hcolumns
  clear h hcolumns
  induction hpaired with
  | nil => exact .nil
  | @cons path column paths columns _ _ ih => exact .cons ⟨path.text, rfl⟩ ih

namespace Environment

variable {env : Environment} {id : String} {type : ComponentType} {s : Statement}

theorem forall₂_isFor_of_deleteConditions {c : Component} {scope : DeleteScope} {slots : List Slot}
    (h : env.deleteConditions c scope = .ok slots) :
    ∃ columns, env.registry.conditionColumns c scope.request = .ok columns ∧
      List.Forall₂ (Slot.IsFor none) columns slots := by
  cases scope with
  | unchangedEntity =>
    obtain ⟨identity, hidentity, h⟩ := bind_eq_ok_iff.1 h
    obtain ⟨version, hversion, h⟩ := bind_eq_ok_iff.1 h
    cases h
    refine ⟨identity ++ version.toList, ?_, Slot.forall₂_isFor_ownSlot none _⟩
    exact bind_eq_ok_iff.2 ⟨identity, hidentity, bind_eq_ok_iff.2 ⟨version, hversion, rfl⟩⟩
  | entity =>
    obtain ⟨identity, hidentity, h⟩ := bind_eq_ok_iff.1 h
    cases h
    exact ⟨identity, hidentity, Slot.forall₂_isFor_ownSlot none identity⟩
  | matching properties => exact Registry.forall₂_isFor_of_pathSlots h

theorem binds_of_deleteStatement {scope : DeleteScope}
    (h : env.deleteStatement id type scope = .ok s) :
    ∃ c, env.registry.component type = .ok c ∧ s.sql.Binds env.registry c scope.request := by
  obtain ⟨c, table, slots, hc, -, hslots, rfl⟩ := deleteStatement_eq_ok_iff.1 h
  have hconditions := forall₂_isFor_of_deleteConditions hslots
  refine ⟨c, hc, ⟨[], ?_, .nil⟩, ?_⟩
  · cases scope <;> rfl
  · have hqualifier : scope.request.boundQualifier = none := by cases scope <;> rfl
    rw [hqualifier]
    exact hconditions

theorem assigned_and_conditions_of_findStatement {c : Component} {plan : FindPlan}
    {cache : CacheUse} (h : env.findStatement id c plan cache = .ok s) :
    s.sql.assigned = [] ∧ s.sql.conditions = plan.conditions := by
  obtain ⟨cancelled, columns, shape, order, -, -, -, -, rfl⟩ := findStatement_eq_ok_iff.1 h
  exact ⟨rfl, rfl⟩

theorem binds_of_statementOf {key : StatementKey} (h : env.statementOf id key = .ok s) :
    ∃ c, env.registry.component key.component = .ok c ∧
      s.sql.Binds env.registry c key.request := by
  obtain ⟨type, request⟩ := key
  cases request with
  | insert =>
    obtain ⟨c, table, columns, generation, hc, -, hcolumns, -, rfl⟩ := insertStatement_eq_ok_iff.1 h
    exact ⟨c, hc, ⟨columns, hcolumns, Slot.forall₂_isFor_ownSlot none columns⟩, [], rfl, .nil⟩
  | update nlsProperties =>
    obtain ⟨sql, hsql, rfl⟩ := updateStatement_eq_ok_iff.1 h
    obtain ⟨c, table, identity, version, plain, localized, hc, -, hidentity, hversion, hplain,
      hlocalized, -, rfl⟩ := updateSql_eq_ok_iff.1 hsql
    refine ⟨c, hc, ⟨plain ++ localized, ?_, Slot.forall₂_isFor_ownSlot none _⟩,
      identity ++ version.toList, ?_, Slot.forall₂_isFor_ownSlot none _⟩
    · exact bind_eq_ok_iff.2 ⟨plain, hplain, bind_eq_ok_iff.2 ⟨localized, hlocalized, rfl⟩⟩
    · exact bind_eq_ok_iff.2 ⟨identity, hidentity, bind_eq_ok_iff.2 ⟨version, hversion, rfl⟩⟩
  | delete => exact @binds_of_deleteStatement env id type s .unchangedEntity h
  | deleteEntityById => exact @binds_of_deleteStatement env id type s .entity h
  | deleteComponentsBy properties =>
    exact @binds_of_deleteStatement env id type s (.matching properties) h
  | findEntityById =>
    obtain ⟨c, cache, identity, source, hc, -, hidentity, -, hfind⟩ :=
      findByIdStatement_eq_ok_iff.1 h
    obtain ⟨hassigned, hconditions⟩ := assigned_and_conditions_of_findStatement hfind
    refine ⟨c, hc, ⟨[], rfl, hassigned ▸ .nil⟩, identity, hidentity, ?_⟩
    rw [hconditions]
    exact Slot.forall₂_isFor_ownSlot _ identity
  | findComponentsBy properties orderBy ignoreCancel =>
    obtain ⟨c, cache, slots, source, hc, -, hslots, -, hfind⟩ := findByStatement_eq_ok_iff.1 h
    obtain ⟨hassigned, hconditions⟩ := assigned_and_conditions_of_findStatement hfind
    refine ⟨c, hc, ⟨[], rfl, hassigned ▸ .nil⟩, ?_⟩
    rw [hconditions, Registry.conditionColumns, Registry.name_of_component hc]
    exact Registry.forall₂_isFor_of_pathSlots hslots
  | findComponentsByJoinTable search orderBy ignoreCancel =>
    obtain ⟨c, cache, source, slots, hc, -, -, hslots, hfind⟩ := findByJoinStatement_eq_ok_iff.1 h
    obtain ⟨hassigned, hconditions⟩ := assigned_and_conditions_of_findStatement hfind
    refine ⟨c, hc, ⟨[], rfl, hassigned ▸ .nil⟩, ?_⟩
    rw [hconditions]
    exact Registry.forall₂_isFor_of_pathSlots hslots
  | findNlsColumn property =>
    obtain ⟨c, table, p, column, identity, cache, hc, -, -, -, hidentity, -, rfl⟩ :=
      localizedColumnStatement_eq_ok_iff.1 h
    exact ⟨c, hc, ⟨[], rfl, .nil⟩, identity, hidentity, Slot.forall₂_isFor_ownSlot _ identity⟩

/-! ### Tables -/

theorem hasTable_of_tableName {r : Registry} {c : Component} {table : String}
    (hc : r.component type = .ok c) (htable : c.tableName = .ok table) : r.HasTable type := by
  obtain ⟨hname, hblank⟩ := Component.tableName_eq_ok_iff.1 htable
  exact ⟨c, table, Registry.component_eq_ok_iff.1 hc, hname, hblank⟩

theorem hasTable_of_targetSource {r : Registry} {c : Component} {source : TableSource}
    (hc : r.component type = .ok c) (hsource : c.targetSource = .ok source) : r.HasTable type := by
  obtain ⟨table, htable, -⟩ := Component.targetSource_eq_ok_iff.1 hsource
  exact hasTable_of_tableName hc htable

/-- There is no statement on a component without a table. -/
theorem hasTable_of_statementOf {key : StatementKey} (h : env.statementOf id key = .ok s) :
    ∀ type ∈ key.types, env.registry.HasTable type := by
  obtain ⟨type, request⟩ := key
  cases request with
  | insert =>
    obtain ⟨c, table, -, -, hc, htable, -⟩ := insertStatement_eq_ok_iff.1 h
    exact List.forall_mem_singleton.2 (hasTable_of_tableName hc htable)
  | update nlsProperties =>
    obtain ⟨sql, hsql, -⟩ := updateStatement_eq_ok_iff.1 h
    obtain ⟨c, table, -, -, -, -, hc, htable, -⟩ := updateSql_eq_ok_iff.1 hsql
    exact List.forall_mem_singleton.2 (hasTable_of_tableName hc htable)
  | delete | deleteEntityById | deleteComponentsBy =>
    obtain ⟨c, table, -, hc, htable, -⟩ := deleteStatement_eq_ok_iff.1 h
    exact List.forall_mem_singleton.2 (hasTable_of_tableName hc htable)
  | findEntityById =>
    obtain ⟨c, -, -, source, hc, -, -, hsource, -⟩ := findByIdStatement_eq_ok_iff.1 h
    exact List.forall_mem_singleton.2 (hasTable_of_targetSource hc hsource)
  | findComponentsBy properties orderBy ignoreCancel =>
    obtain ⟨c, -, -, source, hc, -, -, hsource, -⟩ := findByStatement_eq_ok_iff.1 h
    exact List.forall_mem_singleton.2 (hasTable_of_targetSource hc hsource)
  | findComponentsByJoinTable search orderBy ignoreCancel =>
    obtain ⟨c, -, source, -, hc, -, hsource, -⟩ := findByJoinStatement_eq_ok_iff.1 h
    obtain ⟨start, sourceTable, targetTable, -, -, -, -, hstart, hsourceTable, htargetTable, -⟩ :=
      Registry.joinSource_eq_ok_iff.1 hsource
    refine List.forall_mem_cons.2 ⟨hasTable_of_tableName hc htargetTable, ?_⟩
    exact List.forall_mem_singleton.2 (hasTable_of_tableName hstart hsourceTable)
  | findNlsColumn property =>
    obtain ⟨c, table, -, -, -, -, hc, htable, -⟩ := localizedColumnStatement_eq_ok_iff.1 h
    exact List.forall_mem_singleton.2 (hasTable_of_tableName hc htable)

end Environment

end KeyedSql
