import KeyedSql.Key.Values

/-!
# Reading keys

The parameters of a key stand in a fixed order, so a reader asks for them one by one: it takes the
next parameter if that is the one it wants. What is left over at the end is a repeated, a misplaced
or an unknown parameter. A value is read as soon as its parameter is taken, so of two faults the
one further to the left is reported.
-/

namespace KeyedSql

/-- How far a reader has come: the names taken so far, and the parameters still to come. -/
structure QueryCursor where
  taken : List String
  left : List KeyParam

/-- A reader of query parameters. -/
abbrev QueryReader := StateT QueryCursor (Except GrammarError)

namespace QueryReader

/-- Takes the next parameter if it has this name. -/
def next? (name : String) : QueryReader (Option KeyParam) := fun cursor =>
  match cursor.left with
  | [] => .ok (none, cursor)
  | param :: left =>
    if param.name = name then .ok (some param, ⟨name :: cursor.taken, left⟩)
    else .ok (none, cursor)

/-- The value of a parameter that must be next. -/
def value (name : String) : QueryReader String := do
  match ← next? name with
  | some ⟨_, some value⟩ => return value
  | some ⟨_, none⟩ => throw (.missingValue name)
  | none =>
    if (← get).left.any (·.name = name) then throw (.parameterOutOfOrder name)
    else throw (.missingParameter name)

/-- The value of a parameter that may be next. -/
def value? (name : String) : QueryReader (Option String) := do
  match ← next? name with
  | some ⟨_, some value⟩ => return some value
  | some ⟨_, none⟩ => throw (.missingValue name)
  | none => return none

/-- Whether a flag is next. -/
def flag (name : String) : QueryReader Bool := do
  match ← next? name with
  | some ⟨_, some _⟩ => throw (.unexpectedValue name)
  | some ⟨_, none⟩ => return true
  | none => return false

/-- Refuses a parameter that is left over. -/
def expectEnd (op : Operation) : QueryReader Unit := fun cursor =>
  match cursor.left with
  | [] => .ok ((), cursor)
  | param :: _ =>
    if param.name ∈ cursor.taken then .error (.duplicateParameter param.name)
    else if param.name ∈ op.parameters then .error (.parameterOutOfOrder param.name)
    else .error (.unexpectedParameter param.name)

/-- The paths of a required parameter. -/
def paths (name : String) : QueryReader (List PropertyPath) := do
  PropertyPath.parseList name (← value name)

/-- The sort order, empty when it is not given. -/
def orderBy : QueryReader (List OrderEntry) := do
  match ← value? Parameter.orderBy with
  | some value => OrderEntry.parseList value
  | none => return []

/-- The localized properties of an update; a given list may be empty. -/
def nlsProperties : QueryReader (Option (List Identifier)) := do
  match ← value? Parameter.nlsProperties with
  | none => return none
  | some value =>
    if value = "" then return some []
    else
      let names ← Identifier.parseList value
      checkDistinct Parameter.nlsProperties Identifier.text names
      return some names

/-- The one property of a localized look-up. -/
def property : QueryReader Identifier := do
  let token ← value Parameter.property
  if token = "" then throw (.emptyValue Parameter.property)
  Identifier.parse token

end QueryReader

open QueryReader in
/-- Reads the parameters of an operation. -/
def Request.reader : Operation → QueryReader Request
  | .findEntityById => return .findEntityById
  | .insert => return .insert
  | .delete => return .delete
  | .deleteEntityById => return .deleteEntityById
  | .findComponentsBy => do
    let properties ← paths Parameter.properties
    let order ← orderBy
    return .findComponentsBy properties order (← flag Parameter.ignoreCancel)
  | .findComponentsByJoinTable => do
    let source ← ComponentType.parse (← value Parameter.sourceComponent)
    let sourceProperties ← paths Parameter.sourceProperties
    let targetProperties ← paths Parameter.targetProperties
    let joins ← JoinStep.parseList (← value Parameter.join)
    let order ← orderBy
    return .findComponentsByJoinTable { source, sourceProperties, targetProperties, joins } order
      (← flag Parameter.ignoreCancel)
  | .update => return .update (← nlsProperties)
  | .deleteComponentsBy => return .deleteComponentsBy (← paths Parameter.properties)
  | .findNlsColumn => return .findNlsColumn (← property)

/-- Reads the request of an operation from all the parameters of a key. -/
def Request.ofParams (op : Operation) (params : List KeyParam) : Except GrammarError Request := do
  let (request, cursor) ← (Request.reader op).run ⟨[], params⟩
  let _ ← (QueryReader.expectEnd op).run cursor
  return request

/-- The parameters of a key's head. -/
def KeyHead.params (head : KeyHead) : Except GrammarError (List KeyParam) :=
  match head.query with
  | some query => KeyParam.parseQuery query
  | none => .ok []

namespace StatementKey

/-- Reads a key of the given operation. -/
def parseAs (op : Operation) (key : String) : Except GrammarError StatementKey := do
  let head ← KeyHead.parse key
  if head.operation.text ≠ op.name then
    throw (.wrongOperation op head.operation.text)
  let params ← head.params
  return { component := head.component, request := ← Request.ofParams op params }

/-- Reads a key of any operation. -/
def parse (key : String) : Except GrammarError StatementKey := do
  let head ← KeyHead.parse key
  match Operation.ofName? head.operation.text with
  | some op => parseAs op key
  | none => throw (.unknownOperation head.operation.text)

/-- Whether the text is a key of the given operation. -/
def isKeyOf (op : Operation) (key : String) : Bool :=
  (parseAs op key).isOk

end StatementKey

/-- The operation that the head of a key names; the parameters are not looked at. -/
def Operation.ofKey? (key : String) : Option Operation :=
  match KeyHead.parse key with
  | .ok head => ofName? head.operation.text
  | .error _ => none

end KeyedSql
