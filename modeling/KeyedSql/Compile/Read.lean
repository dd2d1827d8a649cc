import KeyedSql.Links.Localized
import KeyedSql.Statement.Basic

/-!
# Finders and localized look-ups

A finder reads every mapped column of its component under the alias `t`. It looks for the row of an
identity, for the rows in which properties have the bound values, or for the rows that a chain of
joins reaches from such rows of another component. A localized look-up reads the localized column of
one property from the row of an identity.

A chain of joins begins at a source component and reaches the target component through one join
table after the other. Each table is met on columns: those of the source by its properties, those of
a join table as the key lists them, those of the target by its properties again. Columns are paired
by position, so the two lists that meet must have the same length.
-/

namespace KeyedSql

/-! ## Chains of joins -/

/-- Pairs the columns of a joined table with those that stand before it. -/
def pairUp (place : JoinPlace) (columns previous : List ColumnName) :
    Except ConfigError (List (ColumnName × ColumnName)) :=
  if columns.length = previous.length then .ok (columns.zip previous)
  else .error (.columnCountMismatch place columns.length previous.length)

/-- The alias of the join table of this number. -/
def joinAlias (number : Nat) : String :=
  "j" ++ toString number

/-- Joins the tables of the steps, numbered from `number`, to columns that stand before them; also
gives the columns of the last table that what comes next has to meet. -/
def joinSteps (number : Nat) (previous : List ColumnName) :
    List JoinStep → Except ConfigError (List JoinedTable × List ColumnName)
  | [] => .ok ([], previous)
  | step :: steps => do
    let qualifier := joinAlias number
    let columnsOf (names : List Identifier) :=
      names.map fun name => ColumnName.mk (some qualifier) name.text
    let pairs ← pairUp (.step number step.table) (columnsOf step.sourceColumns) previous
    let rest ← joinSteps (number + 1) (columnsOf step.targetColumns) steps
    return (⟨step.table.text, qualifier, pairs⟩ :: rest.1, rest.2)

namespace Registry

/-- The columns of some paths under an alias. -/
def pathColumns (r : Registry) (type : ComponentType) (qualifier : String)
    (paths : List PropertyPath) : Except ConfigError (List ColumnName) :=
  paths.mapM fun path => do return (← r.columnAt type path).under (some qualifier)

/-- The table of the source, the join tables and the table of the target. -/
def joinSource (r : Registry) (target : Component) (search : JoinSearch) :
    Except ConfigError TableSource := do
  let source ← r.component search.source
  let sourceTable ← source.tableName
  let targetTable ← target.tableName
  let start ← r.pathColumns search.source startAlias search.sourceProperties
  let (joined, previous) ← joinSteps 1 start search.joins
  let columns ← r.pathColumns target.name readAlias search.targetProperties
  let pairs ← pairUp (.target target.name) columns previous
  return ⟨sourceTable, startAlias, joined ++ [⟨targetTable, readAlias, pairs⟩]⟩

end Registry

/-! ## Finders -/

namespace Component

/-- The table of a component as the only one to read from. -/
def targetSource (c : Component) : Except ConfigError TableSource := do
  return ⟨← c.tableName, readAlias, []⟩

/-- The column that marks cancelled rows, where they are to be left out. -/
def cancelledColumn (c : Component) (ignoreCancel : Bool) :
    Except ConfigError (Option ColumnName) :=
  if ignoreCancel then do return some ((← c.cancelColumn).under (some readAlias))
  else .ok none

end Component

/-- Where a finder reads from, under which conditions and in which order. -/
structure FindPlan where
  source : TableSource
  conditions : List Slot
  orderBy : List OrderEntry
  ignoreCancel : Bool

namespace Environment

/-- The shape of rows with the given columns of a component. -/
def rowShape (env : Environment) (c : Component) (columns : List MappedColumn) :
    Except ConfigError RowShape := do
  return {
    component := c.name, columns := columns.map (·.rowColumn)
    localized := ← env.registry.reachesLocalized c.name }

/-- The statement of a plan: the rows of the component that are not cancelled, in order. -/
def findStatement (env : Environment) (id : String) (c : Component) (plan : FindPlan)
    (cache : CacheUse) : Except ConfigError Statement := do
  let cancelled ← c.cancelledColumn plan.ignoreCancel
  let columns ← c.rowColumns
  let shape ← env.rowShape c columns
  let order ← env.registry.orderTerms c.name (some readAlias) plan.orderBy
  let sql := Sql.select (columns.map (·.under (some readAlias))) plan.source plan.conditions
    cancelled order
  return .ofRead id sql shape cache

/-- Compiles the finder of the row of an identity. -/
def findByIdStatement (env : Environment) (id : String) (type : ComponentType) :
    Except ConfigError Statement := do
  let c ← env.registry.component type
  let cache ← env.readCacheUse type
  let identity ← c.identifyingColumns
  let source ← c.targetSource
  let conditions := identity.map (·.ownSlot (some readAlias))
  env.findStatement id c { source, conditions, orderBy := [], ignoreCancel := false } cache

/-- Compiles the finder of the rows in which properties have the bound values. -/
def findByStatement (env : Environment) (id : String) (type : ComponentType)
    (properties : List PropertyPath) (orderBy : List OrderEntry) (ignoreCancel : Bool) :
    Except ConfigError Statement := do
  let c ← env.registry.component type
  let cache ← env.readCacheUse type
  let conditions ← env.registry.pathSlots type (some readAlias) properties
  let source ← c.targetSource
  env.findStatement id c { source, conditions, orderBy, ignoreCancel } cache

/-- Compiles the finder of the rows that joins reach from rows of another component. -/
def findByJoinStatement (env : Environment) (id : String) (type : ComponentType)
    (search : JoinSearch) (orderBy : List OrderEntry) (ignoreCancel : Bool) :
    Except ConfigError Statement := do
  let c ← env.registry.component type
  let cache ← env.readCacheUse type
  let source ← env.registry.joinSource c search
  let conditions ← env.registry.pathSlots search.source (some startAlias) search.sourceProperties
  let cache := if search.source = type then cache else cache.invalidatedAlsoBy search.source
  env.findStatement id c { source, conditions, orderBy, ignoreCancel } cache

/-! ## Localized look-ups -/

/-- Compiles the look-up of a localized column. -/
def localizedColumnStatement (env : Environment) (id : String) (type : ComponentType)
    (property : Identifier) : Except ConfigError Statement := do
  let c ← env.registry.component type
  let table ← c.tableName
  let column ← c.requiredLocalizedColumn (← c.property property.text)
  let identity ← c.identifyingColumns
  let cache ← env.readCacheUse type
  let sql := Sql.select [column.under (some readAlias)] ⟨table, readAlias, []⟩
    (identity.map (·.ownSlot (some readAlias))) none []
  return .ofRead id sql ⟨c.name, [column.rowColumn], true⟩ cache

end Environment

end KeyedSql
