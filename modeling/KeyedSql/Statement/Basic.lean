import KeyedSql.Environment
import KeyedSql.Links.Reachable
import KeyedSql.Schema.MappedColumn
import KeyedSql.Sql.Text

/-!
# Compiled statements

A `Statement` is ready to be run: what it does with its bound values, the shape of the rows that it
reads, the generator of the keys that it inserts, and its part in the caching of results.
-/

namespace KeyedSql

/-- A column of the rows that are read. -/
structure RowColumn where
  column : String
  property : String
  localized : Bool
  deriving DecidableEq

/-- The shape of the rows that are read. -/
structure RowShape where
  component : ComponentType
  columns : List RowColumn
  /-- Whether some component that the rows lead to has localized columns. -/
  localized : Bool
  deriving DecidableEq

/-- The generation of the keys of inserted rows. -/
structure GeneratedKey where
  property : String
  column : Option String
  generator : HeldGenerator
  /-- The sequence of the database that stands behind the generator. -/
  sequence : Option String
  /-- The query that is run before the insert to fetch the key. -/
  selectKey : Option String
  deriving DecidableEq

/-- A statement's part in the caching of results. -/
structure CacheUse where
  used : Bool
  /-- Whether the statement empties the cache. -/
  flushed : Bool
  /-- The component whose cache it is, if it has one. -/
  cache : Option ComponentType
  /-- The components whose changes make the results stale. -/
  invalidatedBy : List ComponentType
  deriving DecidableEq

/-- The part of a statement whose results one more component makes stale. -/
def CacheUse.invalidatedAlsoBy (cache : CacheUse) (c : ComponentType) : CacheUse :=
  if c ∈ cache.invalidatedBy then cache
  else { cache with invalidatedBy := ComponentType.sort (c :: cache.invalidatedBy) }

/-- A compiled statement. -/
structure Statement where
  /-- The key that the statement was compiled from. -/
  id : String
  sql : Sql
  rows : Option RowShape
  generatedKey : Option GeneratedKey
  cache : CacheUse
  deriving DecidableEq

/-- The alias of the table that is read. -/
def readAlias : String := "t"

/-- The alias of the table where a chain of joins begins. -/
def startAlias : String := "s"

namespace MappedColumn

/-- The column's name under an alias. -/
def under (column : MappedColumn) (qualifier : Option String) : ColumnName :=
  ⟨qualifier, column.name⟩

/-- The slot of the column, its value read from the named property. -/
def slot (column : MappedColumn) (qualifier : Option String) (property : String) : Slot :=
  { column := column.under qualifier
    binding :=
      { property
        type := column.boundType
        sqlType := column.decl.sqlType
        typeHandler := column.decl.typeHandler } }

/-- The slot of the column, its value read from the column's own property. -/
def ownSlot (column : MappedColumn) (qualifier : Option String) : Slot :=
  column.slot qualifier column.property.name

/-- The column as a part of the rows that are read. -/
def rowColumn (column : MappedColumn) : RowColumn :=
  { column := column.name, property := column.property.name, localized := column.localized }

end MappedColumn

namespace Registry

/-- The slots of some paths, each path naming its own value. -/
def pathSlots (r : Registry) (type : ComponentType) (qualifier : Option String)
    (paths : List PropertyPath) : Except ConfigError (List Slot) :=
  paths.mapM fun path => do return (← r.columnAt type path).slot qualifier path.text

/-- The columns to sort by. -/
def orderTerms (r : Registry) (type : ComponentType) (qualifier : Option String)
    (orderBy : List OrderEntry) : Except ConfigError (List OrderTerm) :=
  orderBy.mapM fun entry => do
    return ⟨(← r.columnAt type entry.property).under qualifier, entry.direction⟩

end Registry

namespace Environment

/-- The part of a write: it uses the component's cache and flushes it. -/
def writeCacheUse (env : Environment) (c : ComponentType) : CacheUse :=
  { used := true, flushed := true, cache := env.cache? c, invalidatedBy := [] }

/-- The part of a read: it uses the component's cache until a linked component changes. -/
def readCacheUse (env : Environment) (c : ComponentType) : Except ConfigError CacheUse := do
  return {
    used := true, flushed := false, cache := env.cache? c
    invalidatedBy := ← env.registry.reachable c }

end Environment

namespace Statement

/-- A statement that reads no rows. -/
def ofWrite (id : String) (sql : Sql) (generation : Option GeneratedKey) (cache : CacheUse) :
    Statement :=
  { id, sql, rows := none, generatedKey := generation, cache }

/-- A statement that reads rows. -/
def ofRead (id : String) (sql : Sql) (rows : RowShape) (cache : CacheUse) : Statement :=
  { id, sql, rows := some rows, generatedKey := none, cache }

/-- The text of a statement. -/
def text (s : Statement) : String :=
  s.sql.text

/-- The bound values of a statement. -/
def parameters (s : Statement) : List Parameter :=
  s.sql.parameters

/-- Whether a statement writes. -/
def isWrite (s : Statement) : Bool :=
  s.sql.command ≠ .select

/-- The properties whose values are bound, in the order of their numbers. -/
def boundProperties (s : Statement) : List String :=
  s.parameters.map (·.binding.property)

end Statement

end KeyedSql
