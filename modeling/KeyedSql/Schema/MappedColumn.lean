import KeyedSql.Key.StatementKey
import KeyedSql.Schema.Registry

/-!
# Mapped columns

Which columns the properties of a component are stored in. A declared column must have a name that
is not blank; where a property is compared or sorted by, its plain column is used before its
localized one.
-/

namespace KeyedSql

/-- A column together with the property that it stores. -/
structure MappedColumn where
  property : Property
  decl : Column
  localized : Bool
  deriving DecidableEq

namespace MappedColumn

/-- The column's name. -/
def name (column : MappedColumn) : String :=
  column.decl.name

/-- The type under which values are bound: the column's own, else the property's. -/
def boundType (column : MappedColumn) : ValueType :=
  column.decl.type.getD column.property.type

/-- A declared column, whose name must not be blank. -/
def ofDecl (owner : ComponentType) (property : Property) (decl : Column) (localized : Bool) :
    Except ConfigError MappedColumn :=
  if Text.isBlank decl.name then .error (.blankColumn owner property.name localized)
  else .ok { property, decl, localized }

end MappedColumn

namespace Component

/-- The plain column of a property. -/
def plainColumn (c : Component) (p : Property) : Except ConfigError (Option MappedColumn) :=
  p.column.mapM fun decl => MappedColumn.ofDecl c.name p decl false

/-- The localized column of a property. -/
def localizedColumn (c : Component) (p : Property) : Except ConfigError (Option MappedColumn) :=
  p.localizedColumn.mapM fun decl => MappedColumn.ofDecl c.name p decl true

/-- The localized column of a property that must have one. -/
def requiredLocalizedColumn (c : Component) (p : Property) : Except ConfigError MappedColumn := do
  match ← c.localizedColumn p with
  | some column => return column
  | none => throw (.missingLocalizedColumn c.name p.name)

/-- The column by which a property is compared: the plain one, else the localized one. -/
def comparedColumn (c : Component) (p : Property) : Except ConfigError MappedColumn := do
  match ← c.plainColumn p with
  | some column => return column
  | none =>
    match ← c.localizedColumn p with
    | some column => return column
    | none => throw (.missingColumn c.name p.name)

/-- The columns that identify rows, of which there is at least one. -/
def identifyingColumns (c : Component) : Except ConfigError (List MappedColumn) :=
  if c.identities.isEmpty then .error (.missingIdentity c.name)
  else c.identities.mapM c.comparedColumn

/-- The column of the version, if there is one. -/
def versionColumn (c : Component) : Except ConfigError (Option MappedColumn) := do
  (← c.versionProperty).mapM c.comparedColumn

/-- The columns of a property, the plain one first. -/
def columnsOf (c : Component) (p : Property) : Except ConfigError (List MappedColumn) := do
  let plain ← c.plainColumn p
  let localized ← c.localizedColumn p
  return plain.toList ++ localized.toList

/-- All columns in the order of the declarations. -/
def allColumns (c : Component) : Except ConfigError (List MappedColumn) :=
  (c.properties.mapM c.columnsOf).map List.flatten

/-- All columns, of which there is at least one. -/
def rowColumns (c : Component) : Except ConfigError (List MappedColumn) := do
  let columns ← c.allColumns
  if columns.isEmpty then throw (.noMappedColumn c.name)
  return columns

/-- The column that marks cancelled rows. -/
def cancelColumn (c : Component) : Except ConfigError MappedColumn :=
  match c.cancelMark? with
  | some p => c.comparedColumn p
  | none => .error (.missingCancelFlag c.name)

end Component

namespace Registry

/-- The column of the property at the end of a path. -/
def columnAt (r : Registry) (type : ComponentType) (path : PropertyPath) :
    Except ConfigError MappedColumn := do
  let target ← r.propertyAt type path
  target.owner.comparedColumn target.property

end Registry

end KeyedSql
