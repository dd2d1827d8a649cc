import KeyedSql.Statement.Basic

/-!
# Inserts, updates and deletes

An insert fills every mapped column of a component. The key of the new row comes from the generator
that the first identity property asks for: a named one if it gives a name, else one of the class
that it gives.

An update assigns the plain columns of all properties but the identity and the version, and the
localized columns of the properties that its key names. It meets the row of the bound identity, and
where there is a version, only if that has not changed since; the version then counts the change.

Rows are removed by identity and version, by identity alone, or by the values of properties.
-/

namespace KeyedSql

/-! ## Inserts -/

/-- A declared text, unless it is blank. -/
def nonBlank? (text : Option String) : Option String :=
  text.filter fun s => !Text.isBlank s

namespace Environment

/-- The generator that a property's identity asks for. -/
def wishedGenerator (env : Environment) (site : GeneratorSite) (identity : Identity) :
    Except ConfigError (Option HeldGenerator) :=
  match nonBlank? identity.generatorId with
  | some id =>
    match env.generator? id with
    | some named => .ok (some (.shared named.toSharedGenerator))
    | none => .error (.unknownGenerator (site.wish id))
  | none =>
    match nonBlank? identity.generatorClass with
    | some name => (GeneratorClass.buildFor env.classes site name).map some
    | none => .ok none

/-- The generation of keys for a component, from its first identity property. -/
def generatedKey (env : Environment) (key : String) (c : Component) :
    Except ConfigError (Option GeneratedKey) := do
  let some p := c.identities.head? | return none
  let some identity := p.identity | return none
  return (← env.wishedGenerator (env.site key c.name p.name) identity).map fun g =>
    { property := p.name, column := p.column.map (·.name), generator := g
      sequence := g.generator.sequence, selectKey := g.generator.selectKey }

/-- Compiles an insert. -/
def insertStatement (env : Environment) (id : String) (type : ComponentType) :
    Except ConfigError Statement := do
  let c ← env.registry.component type
  let table ← c.tableName
  let columns ← c.rowColumns
  let generation ← env.generatedKey id c
  let sql := Sql.insert table (columns.map (·.ownSlot none))
  return .ofWrite id sql generation (env.writeCacheUse type)

end Environment

/-! ## Updates -/

namespace Component

/-- The plain columns that an update always assigns. -/
def updatableColumns (c : Component) : Except ConfigError (List MappedColumn) := do
  let properties := c.properties.filter fun p => !(p.isIdentity || p.version)
  return (← properties.mapM c.plainColumn).filterMap id

/-- The localized column of the property of a name. -/
def namedLocalizedColumn (c : Component) (name : Identifier) : Except ConfigError MappedColumn := do
  c.requiredLocalizedColumn (← c.property name.text)

end Component

namespace Environment

/-- What an update assigns and which rows it meets. -/
def updateSql (env : Environment) (type : ComponentType) (nlsProperties : List Identifier) :
    Except ConfigError Sql := do
  let c ← env.registry.component type
  let table ← c.tableName
  let identity ← c.identifyingColumns
  let version ← c.versionColumn
  let plain ← c.updatableColumns
  let localized ← nlsProperties.mapM c.namedLocalizedColumn
  let assigned := (plain ++ localized).map (·.ownSlot none)
  if assigned.isEmpty && version.isNone then throw (.nothingToUpdate type)
  let conditions := (identity ++ version.toList).map (·.ownSlot none)
  return .update table assigned (version.map (·.name)) conditions

/-- Compiles an update. -/
def updateStatement (env : Environment) (id : String) (type : ComponentType)
    (nlsProperties : Option (List Identifier)) : Except ConfigError Statement := do
  let sql ← env.updateSql type (nlsProperties.getD [])
  return .ofWrite id sql none (env.writeCacheUse type)

end Environment

/-! ## Deletes -/

/-- Which rows a delete removes. -/
inductive DeleteScope where
  /-- The row of an identity, if its version has not changed. -/
  | unchangedEntity
  /-- The row of an identity. -/
  | entity
  /-- The rows in which the properties have the bound values. -/
  | matching (properties : List PropertyPath)
  deriving DecidableEq

namespace Environment

/-- The conditions on the rows that a delete removes. -/
def deleteConditions (env : Environment) (c : Component) : DeleteScope →
    Except ConfigError (List Slot)
  | .unchangedEntity => do
    let identity ← c.identifyingColumns
    let version ← c.versionColumn
    return (identity ++ version.toList).map (·.ownSlot none)
  | .entity => do return (← c.identifyingColumns).map (·.ownSlot none)
  | .matching properties => env.registry.pathSlots c.name none properties

/-- Compiles a delete. -/
def deleteStatement (env : Environment) (id : String) (type : ComponentType) (scope : DeleteScope) :
    Except ConfigError Statement := do
  let c ← env.registry.component type
  let table ← c.tableName
  let conditions ← env.deleteConditions c scope
  return .ofWrite id (.delete table conditions) none (env.writeCacheUse type)

end Environment

end KeyedSql
