import KeyedSql.Schema.ValueType

/-!
# Components and their properties

A component declares a table and properties. A property may map to a plain column, to a localized
column or to both; it may be an identity, a version, an association, a collection or the mark of
cancelled rows. What a declaration leaves open is inferred from the property's declared type.

Looking up something that is not declared is an error here; declarations that are optional on a
known property are `Option`s.
-/

namespace KeyedSql

/-- A column that a property is stored in. -/
structure Column where
  name : String
  /-- The stored type, where it differs from the property's. -/
  type : Option ValueType
  /-- The type under which a null is bound. -/
  sqlType : Option String
  /-- The name of a conversion of values. -/
  typeHandler : Option String
  deriving DecidableEq

/-- How the value of an identity is generated. -/
structure Identity where
  generatorId : Option String
  generatorClass : Option String
  deriving DecidableEq

/-- An association with another component. -/
structure Association where
  /-- The associated component, where the property's type does not name it. -/
  target : Option ComponentType
  deriving DecidableEq

/-- A property that holds several values. -/
structure Collection where
  /-- The component of the elements, where the type does not name it. -/
  element : Option ComponentType
  /-- The collection type, where it differs from the property's. -/
  type : Option ValueType
  deriving DecidableEq

/-- A declared property. -/
structure Property where
  name : String
  type : ValueType
  column : Option Column
  localizedColumn : Option Column
  identity : Option Identity
  version : Bool
  association : Option Association
  collection : Option Collection
  /-- Whether the property marks cancelled rows. -/
  cancelFlag : Bool
  deriving DecidableEq

/-- The declarations of a component. -/
structure Component where
  name : ComponentType
  table : Option String
  /-- Further components whose changes concern the cache of this one. -/
  cacheLinks : List ComponentType
  properties : List Property
  deriving DecidableEq

/-- A column of which only the name is declared. -/
def Column.ofName (name : String) : Column :=
  { name, type := none, sqlType := none, typeHandler := none }

namespace Property

/-- A property of which only the type is declared. -/
def ofType (name : String) (type : ValueType) : Property :=
  { name, type, column := none, localizedColumn := none, identity := none, version := false,
    association := none, collection := none, cancelFlag := false }

/-- Whether the property identifies rows. -/
def isIdentity (p : Property) : Bool :=
  p.identity.isSome

/-- The type that the property's first column stores. -/
def storedType (p : Property) : ValueType :=
  ((p.column.or p.localizedColumn).bind (·.type)).getD p.type

/-- The component that an association leads to, if it names one. -/
def associationTarget? (p : Property) : Option ComponentType :=
  p.association.bind fun a => a.target.or p.type.component?

/-- The type that a collection is declared with. -/
def collectionType (p : Property) (c : Collection) : ValueType :=
  c.type.getD p.type

/-- The type of a collection's elements; `none` where the property is no collection. -/
def elementType (owner : ComponentType) (p : Property) : Except ConfigError (Option ValueType) :=
  match p.collection with
  | none => .ok none
  | some c =>
    match (p.collectionType c).element? with
    | none => .error (.notACollection owner p.name (p.collectionType c).text)
    | some element => .ok (some ((c.element.map .component).getD element))

end Property

namespace Component

/-- A component that declares nothing yet. -/
def ofName (name : ComponentType) : Component :=
  { name, table := none, cacheLinks := [], properties := [] }

/-- The first property of a name. -/
def find? (c : Component) (name : String) : Option Property :=
  c.properties.find? (·.name == name)

/-- The first property of a name, which must exist. -/
def property (c : Component) (name : String) : Except ConfigError Property :=
  match c.find? name with
  | some p => .ok p
  | none => .error (.unknownProperty c.name name)

/-- The table, whose name must not be blank. -/
def tableName (c : Component) : Except ConfigError String :=
  match c.table with
  | some table => if Text.isBlank table then .error (.missingTable c.name) else .ok table
  | none => .error (.missingTable c.name)

/-- The properties that identify rows. -/
def identities (c : Component) : List Property :=
  c.properties.filter (·.isIdentity)

/-- The version, if there is one; it must be stored as an integer. -/
def versionProperty (c : Component) : Except ConfigError (Option Property) :=
  match c.properties.find? (·.version) with
  | none => .ok none
  | some p =>
    if p.storedType.isInteger then .ok (some p) else .error (.versionNotInteger c.name p.name)

/-- The property that marks cancelled rows. -/
def cancelMark? (c : Component) : Option Property :=
  c.properties.find? (·.cancelFlag)

/-- The properties with a localized column. -/
def localizedProperties (c : Component) : List Property :=
  c.properties.filter (·.localizedColumn.isSome)

/-- Whether some property has a localized column. -/
def hasLocalizedColumn (c : Component) : Bool :=
  c.properties.any (·.localizedColumn.isSome)

end Component

end KeyedSql
