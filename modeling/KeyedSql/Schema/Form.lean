import KeyedSql.Schema.Registry
import KeyedSql.Toml.Line

/-!
# Components as documents

A component is written as a table of its declarations. Members that are not given stay out of the
table, so a declaration that is given but empty differs from one that is absent; the marks
`version` and `cancel_flag` are always written.

Reading goes through the members of a table in their order and stops at the first that is refused;
members of other names are passed over. What has been read so far is a draft, in which nothing is
required. A record may also be given as the list of its members' values, in the order in which they
are written; whether more values may follow depends on what the document comes from.

A schema text is a TOML document with an array of tables `component`. It loads into a registry if
every component can be read and no two are of one type; records that are given as lists may have
surplus values there.
-/

namespace KeyedSql

namespace Document

/-- A text. -/
def toText : Document → Except DocumentError String
  | text s => .ok s
  | _ => .error .wrongType

/-- A truth value. -/
def toBool : Document → Except DocumentError Bool
  | bool b => .ok b
  | _ => .error .wrongType

/-- A list of things of one kind. -/
def toListOf {α : Type} (read : Document → Except DocumentError α) :
    Document → Except DocumentError (List α)
  | list items => items.mapM read
  | _ => .error .wrongType

/-- Something that may be absent. -/
def toOptional {α : Type} (read : Document → Except DocumentError α) :
    Document → Except DocumentError (Option α)
  | null => .ok none
  | d => (read d).map some

/-- The name of a component. -/
def toComponentType (d : Document) : Except DocumentError ComponentType := do
  let token ← d.toText
  let type : Except DeclarationError ComponentType := ComponentType.parse token
  type

/-- A value type. -/
def toValueType (d : Document) : Except DocumentError ValueType := do
  ValueType.parse (← d.toText)

/-- What becomes of the values of a listed record behind those of its members. -/
inductive Surplus where
  | dropped
  | refused
  deriving DecidableEq

/-- Whether a listed record of so many values has one for every required member, and none that is
refused. -/
def Surplus.accepts (surplus : Surplus) (required named given : Nat) : Bool :=
  required ≤ given && (given ≤ named || surplus == .dropped)

/-- Takes the members of a record into a draft; the first few of their names are required. -/
def toRecord {δ : Type} (surplus : Surplus) (required : Nat) (names : List String)
    (add : δ → String → Document → Except DocumentError δ) (start : δ) :
    Document → Except DocumentError δ
  | table members => members.foldlM (fun draft m => add draft m.1 m.2) start
  | list items => do
    let draft ← (names.zip items).foldlM (fun draft m => add draft m.1 m.2) start
    if surplus.accepts required names.length items.length then return draft
    throw .wrongType
  | _ => .error .wrongType

/-- A member that must have been read. -/
def given {α : Type} (name : String) : Option α → Except DocumentError α
  | some a => .ok a
  | none => .error (.missingMember name)

end Document

/-! ## Columns -/

namespace Column

/-- A column of which nothing may be known yet. -/
structure Draft where
  name : Option String
  type : Option ValueType
  sqlType : Option String
  typeHandler : Option String

/-- Takes in a member. -/
def Draft.add (draft : Draft) (name : String) (d : Document) : Except DocumentError Draft :=
  match name with
  | "name" => do return { draft with name := some (← d.toText) }
  | "type" => do return { draft with type := ← d.toOptional Document.toValueType }
  | "sql_type" => do return { draft with sqlType := ← d.toOptional Document.toText }
  | "type_handler" => do return { draft with typeHandler := ← d.toOptional Document.toText }
  | _ => .ok draft

/-- Reads a column. -/
def ofDocument (surplus : Document.Surplus) (d : Document) : Except DocumentError Column := do
  let draft ← d.toRecord surplus 1 ["name", "type", "sql_type", "type_handler"] Draft.add
    ⟨none, none, none, none⟩
  return {
    name := ← Document.given "name" draft.name
    type := draft.type, sqlType := draft.sqlType, typeHandler := draft.typeHandler }

/-- Writes a column. -/
def document (c : Column) : Document :=
  .table <|
    member "name" (.text c.name) ++
    optionalMember "type" (c.type.map fun t => .text t.text) ++
    optionalMember "sql_type" (c.sqlType.map .text) ++
    optionalMember "type_handler" (c.typeHandler.map .text)

end Column

/-! ## Identities, associations, collections -/

namespace Identity

/-- Takes in a member. -/
def add (decl : Identity) (name : String) (d : Document) : Except DocumentError Identity :=
  match name with
  | "generator_id" => do return { decl with generatorId := ← d.toOptional Document.toText }
  | "generator_class" => do return { decl with generatorClass := ← d.toOptional Document.toText }
  | _ => .ok decl

/-- Reads an identity. -/
def ofDocument (surplus : Document.Surplus) (d : Document) : Except DocumentError Identity :=
  d.toRecord surplus 0 ["generator_id", "generator_class"] add ⟨none, none⟩

/-- Writes an identity. -/
def document (i : Identity) : Document :=
  .table <|
    optionalMember "generator_id" (i.generatorId.map .text) ++
    optionalMember "generator_class" (i.generatorClass.map .text)

end Identity

namespace Association

/-- Takes in a member. -/
def add (decl : Association) (name : String) (d : Document) :
    Except DocumentError Association :=
  match name with
  | "target" => do return { decl with target := ← d.toOptional Document.toComponentType }
  | _ => .ok decl

/-- Reads an association. -/
def ofDocument (surplus : Document.Surplus) (d : Document) : Except DocumentError Association :=
  d.toRecord surplus 0 ["target"] add ⟨none⟩

/-- Writes an association. -/
def document (a : Association) : Document :=
  .table (optionalMember "target" (a.target.map fun c => .text c.text))

end Association

namespace Collection

/-- Takes in a member. -/
def add (decl : Collection) (name : String) (d : Document) :
    Except DocumentError Collection :=
  match name with
  | "element" => do return { decl with element := ← d.toOptional Document.toComponentType }
  | "type" => do return { decl with type := ← d.toOptional Document.toValueType }
  | _ => .ok decl

/-- Reads a collection. -/
def ofDocument (surplus : Document.Surplus) (d : Document) : Except DocumentError Collection :=
  d.toRecord surplus 0 ["element", "type"] add ⟨none, none⟩

/-- Writes a collection. -/
def document (c : Collection) : Document :=
  .table <|
    optionalMember "element" (c.element.map fun e => .text e.text) ++
    optionalMember "type" (c.type.map fun t => .text t.text)

end Collection

/-! ## Properties -/

namespace Property

/-- A property of which nothing may be known yet. -/
structure Draft where
  name : Option String
  type : Option ValueType
  column : Option Column
  localizedColumn : Option Column
  identity : Option Identity
  version : Bool
  association : Option Association
  collection : Option Collection
  cancelFlag : Bool

/-- The draft without anything in it. -/
def Draft.empty : Draft :=
  { name := none, type := none, column := none, localizedColumn := none, identity := none
    version := false, association := none, collection := none, cancelFlag := false }

/-- Takes in a member. -/
def Draft.add (surplus : Document.Surplus) (draft : Draft) (name : String) (d : Document) :
    Except DocumentError Draft :=
  match name with
  | "name" => do return { draft with name := some (← d.toText) }
  | "type" => do return { draft with type := some (← d.toValueType) }
  | "column" => do return { draft with column := ← d.toOptional (Column.ofDocument surplus) }
  | "localized_column" => do
    return { draft with localizedColumn := ← d.toOptional (Column.ofDocument surplus) }
  | "identity" => do return { draft with identity := ← d.toOptional (Identity.ofDocument surplus) }
  | "version" => do return { draft with version := ← d.toBool }
  | "association" => do
    return { draft with association := ← d.toOptional (Association.ofDocument surplus) }
  | "collection" => do
    return { draft with collection := ← d.toOptional (Collection.ofDocument surplus) }
  | "cancel_flag" => do return { draft with cancelFlag := ← d.toBool }
  | _ => .ok draft

/-- Reads a property. -/
def ofDocument (surplus : Document.Surplus) (d : Document) : Except DocumentError Property := do
  let draft ← d.toRecord surplus 2
    ["name", "type", "column", "localized_column", "identity", "version", "association",
      "collection", "cancel_flag"]
    (Draft.add surplus) Draft.empty
  return {
    name := ← Document.given "name" draft.name
    type := ← Document.given "type" draft.type
    column := draft.column, localizedColumn := draft.localizedColumn, identity := draft.identity
    version := draft.version, association := draft.association, collection := draft.collection
    cancelFlag := draft.cancelFlag }

/-- Writes a property. -/
def document (p : Property) : Document :=
  .table <|
    member "name" (.text p.name) ++
    member "type" (.text p.type.text) ++
    optionalMember "column" (p.column.map (·.document)) ++
    optionalMember "localized_column" (p.localizedColumn.map (·.document)) ++
    optionalMember "identity" (p.identity.map (·.document)) ++
    member "version" (.bool p.version) ++
    optionalMember "association" (p.association.map (·.document)) ++
    optionalMember "collection" (p.collection.map (·.document)) ++
    member "cancel_flag" (.bool p.cancelFlag)

end Property

/-! ## Components -/

namespace Component

/-- A component of which nothing may be known yet. -/
structure Draft where
  name : Option ComponentType
  table : Option String
  cacheLinks : List ComponentType
  properties : List Property

/-- Takes in a member. -/
def Draft.add (surplus : Document.Surplus) (draft : Draft) (name : String) (d : Document) :
    Except DocumentError Draft :=
  match name with
  | "name" => do return { draft with name := some (← d.toComponentType) }
  | "table" => do return { draft with table := ← d.toOptional Document.toText }
  | "cache_links" => do return { draft with cacheLinks := ← d.toListOf Document.toComponentType }
  | "property" => do
    return { draft with properties := ← d.toListOf (Property.ofDocument surplus) }
  | _ => .ok draft

/-- Reads a component. -/
def ofDocument (surplus : Document.Surplus) (d : Document) : Except DocumentError Component := do
  let draft ← d.toRecord surplus 1 ["name", "table", "cache_links", "property"]
    (Draft.add surplus) ⟨none, none, [], []⟩
  return {
    name := ← Document.given "name" draft.name
    table := draft.table, cacheLinks := draft.cacheLinks, properties := draft.properties }

/-- Writes a component. -/
def document (c : Component) : Document :=
  .table <|
    member "name" (.text c.name.text) ++
    optionalMember "table" (c.table.map .text) ++
    (if c.cacheLinks.isEmpty then []
      else member "cache_links" (Document.texts (c.cacheLinks.map (·.text)))) ++
    member "property" (.list (c.properties.map (·.document)))

end Component

/-! ## Schema texts -/

/-- Reads a TOML text. -/
def Toml.document (text : String) : Except DocumentError Document :=
  match Toml.parse text with
  | some d => .ok d
  | none => .error .malformed

/-- Takes in a member of a schema: the last `component` counts. -/
def Component.addListed (components : List Component) (name : String) (d : Document) :
    Except DocumentError (List Component) :=
  if name = "component" then d.toListOf (Component.ofDocument .dropped) else .ok components

/-- The components that a schema lists. -/
def Component.listOfDocument (d : Document) : Except DocumentError (List Component) :=
  d.toRecord .dropped 0 ["component"] addListed []

/-- The registry that a schema text loads into. -/
def Registry.ofText (text : String) : Except Error Registry := do
  let components ← Component.listOfDocument (← Toml.document text)
  Registry.empty.registerAll components

end KeyedSql
