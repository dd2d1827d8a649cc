import KeyedSql.Name.ComponentType
import KeyedSql.Name.Identifier

/-!
# The parts of a key

```text
key   := type "/" operation ("?" query)?
query := param ("&" param)*
param := name "=" value | name
```

A key is cut at the first `?` and its path at the first `/`; a query is split at every `&` and a
parameter cut at its first `=`. Values are left as they are: further delimiters in them are for the
readers of values to judge.
-/

namespace KeyedSql

/-- The head of a key, and the query behind it if a `?` follows the head. -/
structure KeyHead where
  component : ComponentType
  operation : Identifier
  query : Option String
  deriving DecidableEq

/-- A query parameter: a name with a value, or a bare name. -/
structure KeyParam where
  name : String
  value : Option String
  deriving DecidableEq

namespace KeyHead

/-- The text before the first `?` and the query after it. -/
def cutQuery (key : String) : String × Option String :=
  match Text.cut '?' key with
  | some (path, query) => (path, some query)
  | none => (key, none)

/-- Reads the head of a key. -/
def parse (key : String) : Except GrammarError KeyHead :=
  let (path, query) := cutQuery key
  match Text.cut '/' path with
  | none => .error (.missingHead key)
  | some (typeName, operation) =>
    if typeName = "" ∨ operation = "" then .error (.missingHead key)
    else do
      let component ← ComponentType.parse typeName
      let operation ← Identifier.parse operation
      return { component, operation, query }

/-- The key of a head. -/
def text (head : KeyHead) : String :=
  let path := head.component.text ++ "/" ++ head.operation.text
  match head.query with
  | some query => path ++ "?" ++ query
  | none => path

end KeyHead

namespace KeyParam

/-- Reads one parameter; only its name is validated. -/
def parse (text : String) : Except GrammarError KeyParam :=
  let param : KeyParam :=
    match Text.cut '=' text with
    | some (name, value) => ⟨name, some value⟩
    | none => ⟨text, none⟩
  do
    Token.requireIdentifier param.name
    return param

/-- The parameter as it stands in a query. -/
def text (param : KeyParam) : String :=
  match param.value with
  | some value => param.name ++ "=" ++ value
  | none => param.name

/-- Reads a query, which holds at least one parameter. -/
def parseQuery (query : String) : Except GrammarError (List KeyParam) :=
  if query = "" then .error (.invalidToken "")
  else (Text.split '&' query).mapM parse

/-- The query of some parameters. -/
def queryText (params : List KeyParam) : String :=
  Text.join '&' (params.map text)

end KeyParam

/-- The items of a list value; none of them may be empty. -/
def readItems (sep : Char) (value : String) : Except GrammarError (List String) :=
  if "" ∈ Text.split sep value then .error (.invalidToken value)
  else .ok (Text.split sep value)

theorem readItems_eq_ok_iff {sep : Char} {value : String} {items : List String} :
    readItems sep value = .ok items ↔
      items ≠ [] ∧ (∀ item ∈ items, item ≠ "" ∧ sep ∉ item.toList) ∧
        Text.join sep items = value := by
  unfold readItems
  constructor
  · split
    · simp
    · rename_i hempty
      rintro ⟨⟩
      exact ⟨Text.split_ne_nil _ _,
        fun item h => ⟨fun e => hempty (e ▸ h), Text.notMem_of_mem_split h⟩, Text.join_split _ _⟩
  · rintro ⟨hne, h, rfl⟩
    rw [Text.split_join hne fun item hi => (h item hi).2, if_neg fun hmem => (h _ hmem).1 rfl]

end KeyedSql
