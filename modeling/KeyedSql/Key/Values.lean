import KeyedSql.Key.Parts
import KeyedSql.Key.StatementKey

/-!
# The text of keys

```text
paths  := path ("," path)*
orders := path ";" direction ("#" path ";" direction)*
joins  := table ";" columns ";" columns ("#" table ";" columns ";" columns)*
```

Each kind of value has its text and the reader of that text side by side. Every key has one text:
its head, then the parameters of its request in their fixed order. A parameter that says nothing (no
sort order, a flag that is not set) is left out.
-/

namespace KeyedSql

/-! ## Lists of names -/

/-- Identifiers with commas between them. -/
def Identifier.listText (names : List Identifier) : String :=
  Text.join ',' (names.map (·.text))

/-- Reads identifiers with commas between them. -/
def Identifier.parseList (value : String) : Except GrammarError (List Identifier) := do
  (← readItems ',' value).mapM Identifier.parse

/-- Paths with commas between them. -/
def PropertyPath.listText (paths : List PropertyPath) : String :=
  Text.join ',' (paths.map (·.text))

/-- Reads the paths of a parameter, which are at least one and distinct. -/
def PropertyPath.parseList (parameter value : String) :
    Except GrammarError (List PropertyPath) := do
  if value = "" then throw (.emptyValue parameter)
  let paths ← (← readItems ',' value).mapM PropertyPath.parse
  checkDistinct parameter PropertyPath.text paths
  return paths

/-! ## Sort orders -/

/-- An entry of a sort order as it stands in a key. -/
def OrderEntry.text (entry : OrderEntry) : String :=
  Text.join ';' [entry.property.text, entry.direction.name]

/-- Reads an entry of a sort order. -/
def OrderEntry.parse (entry : String) : Except GrammarError OrderEntry :=
  match Text.split ';' entry with
  | [property, direction] => do
    let property ← PropertyPath.parse property
    let direction ← SortDirection.parse direction
    return { property, direction }
  | _ => .error (.malformedOrder entry)

/-- A sort order as it stands in a key. -/
def OrderEntry.listText (orderBy : List OrderEntry) : String :=
  Text.join '#' (orderBy.map text)

/-- Reads a sort order, which has at least one entry and no property twice. -/
def OrderEntry.parseList (value : String) : Except GrammarError (List OrderEntry) := do
  if value = "" then throw (.emptyValue Parameter.orderBy)
  let orderBy ← (← readItems '#' value).mapM OrderEntry.parse
  OrderEntry.checkDistinct orderBy
  return orderBy

/-! ## Joins -/

/-- A join step as it stands in a key. -/
def JoinStep.text (step : JoinStep) : String :=
  Text.join ';'
    [step.table.text, Identifier.listText step.sourceColumns,
      Identifier.listText step.targetColumns]

/-- Reads a join step, neither of whose lists of columns is empty. -/
def JoinStep.parse (entry : String) : Except GrammarError JoinStep :=
  match Text.split ';' entry with
  | [table, source, target] =>
    if source = "" ∨ target = "" then .error (.malformedJoin entry)
    else do
      let table ← Identifier.parse table
      let sourceColumns ← Identifier.parseList source
      let targetColumns ← Identifier.parseList target
      return { table, sourceColumns, targetColumns }
  | _ => .error (.malformedJoin entry)

/-- A chain of joins as it stands in a key. -/
def JoinStep.listText (joins : List JoinStep) : String :=
  Text.join '#' (joins.map text)

/-- Reads a chain of joins, which has at least one step. -/
def JoinStep.parseList (value : String) : Except GrammarError (List JoinStep) := do
  if value = "" then throw (.emptyValue Parameter.join)
  (← readItems '#' value).mapM JoinStep.parse

/-! ## Keys -/

/-- The parameter of a sort order, left out when there is nothing to sort by. -/
def OrderEntry.params (orderBy : List OrderEntry) : List KeyParam :=
  if orderBy.isEmpty then [] else [⟨Parameter.orderBy, some (listText orderBy)⟩]

/-- A flag's parameter: its bare name when it is set. -/
def KeyParam.flag (name : String) (set : Bool) : List KeyParam :=
  if set then [⟨name, none⟩] else []

/-- The parameters of a request. -/
def Request.params : Request → List KeyParam
  | findEntityById | insert | delete | deleteEntityById | update none => []
  | findComponentsBy properties orderBy ignoreCancel =>
    ⟨Parameter.properties, some (PropertyPath.listText properties)⟩ ::
      (OrderEntry.params orderBy ++ KeyParam.flag Parameter.ignoreCancel ignoreCancel)
  | findComponentsByJoinTable search orderBy ignoreCancel =>
    ⟨Parameter.sourceComponent, some search.source.text⟩ ::
    ⟨Parameter.sourceProperties, some (PropertyPath.listText search.sourceProperties)⟩ ::
    ⟨Parameter.targetProperties, some (PropertyPath.listText search.targetProperties)⟩ ::
    ⟨Parameter.join, some (JoinStep.listText search.joins)⟩ ::
      (OrderEntry.params orderBy ++ KeyParam.flag Parameter.ignoreCancel ignoreCancel)
  | update (some names) => [⟨Parameter.nlsProperties, some (Identifier.listText names)⟩]
  | deleteComponentsBy properties =>
    [⟨Parameter.properties, some (PropertyPath.listText properties)⟩]
  | findNlsColumn property => [⟨Parameter.property, some property.text⟩]

/-- The text of a key. -/
def StatementKey.text (key : StatementKey) : String :=
  let head := key.component.text ++ "/" ++ key.operation.name
  match key.request.params with
  | [] => head
  | params => head ++ "?" ++ KeyParam.queryText params

end KeyedSql
