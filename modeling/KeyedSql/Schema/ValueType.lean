import KeyedSql.Error
import KeyedSql.Text.Ends

/-!
# Value types

The declared type of a property: a scalar, a component, a list or a set with or without the type of
its elements, or the name of an application type.

```text
type := scalar | "component:" name | ("list" | "set") ("<" type ">")? | name
```

White space around a type is dropped at every level of nesting. Scalars have a name each and some
have further spellings; `ValueType.text` writes the name.
-/

namespace KeyedSql

/-- The types that are not made of others. -/
inductive Scalar where
  | int32
  | int64
  | float64
  | decimal
  | text
  | bool
  | timestamp
  | bytes
  | any
  deriving DecidableEq, Repr

/-- The two shapes of collections. -/
inductive CollectionKind where
  | list
  | set
  deriving DecidableEq, Repr

/-- The declared type of a value. -/
inductive ValueType where
  | scalar (scalar : Scalar)
  | component (component : ComponentType)
  /-- A collection whose elements have no declared type. -/
  | bare (kind : CollectionKind)
  /-- A collection of elements of one type. -/
  | collection (kind : CollectionKind) (element : ValueType)
  /-- An application type, known by name alone. -/
  | named (name : String)
  deriving DecidableEq

namespace Scalar

/-- Every scalar, once. -/
def all : List Scalar :=
  [int32, int64, float64, decimal, text, bool, timestamp, bytes, any]

/-- The name of a scalar. -/
def name : Scalar → String
  | int32 => "i32"
  | int64 => "i64"
  | float64 => "f64"
  | decimal => "decimal"
  | text => "string"
  | bool => "bool"
  | timestamp => "timestamp"
  | bytes => "bytes"
  | any => "any"

/-- The spellings of a scalar besides its name. -/
def aliases : Scalar → List String
  | int32 => ["int", "integer"]
  | int64 => ["long"]
  | float64 => ["double", "float"]
  | text => ["text"]
  | bool => ["boolean"]
  | timestamp => ["datetime"]
  | bytes => ["blob"]
  | decimal | any => []

/-- The scalar of a spelling. -/
def ofName? (spelling : String) : Option Scalar :=
  all.find? fun s => spelling == s.name || s.aliases.contains spelling

/-- Whether the scalar is an integer of 32 or 64 bits. -/
def isInteger : Scalar → Bool
  | int32 | int64 => true
  | _ => false

end Scalar

namespace CollectionKind

/-- The name of a shape. -/
def name : CollectionKind → String
  | list => "list"
  | set => "set"

/-- The shape of a name. -/
def ofName? (name : String) : Option CollectionKind :=
  [list, set].find? (·.name == name)

/-- What stands between the angle brackets behind the name of the shape. -/
def inside? (kind : CollectionKind) (cs : List Char) : Option (List Char) :=
  (Text.after? (kind.name.toList ++ ['<']) cs).bind (Text.before? ['>'])

end CollectionKind

namespace ValueType

/-- The list or set that the characters spell, and the characters of its element type. -/
def inside? (cs : List Char) : Option (CollectionKind × List Char) :=
  match CollectionKind.list.inside? cs with
  | some inner => some (.list, inner)
  | none => (CollectionKind.set.inside? cs).map fun inner => (.set, inner)

theorem length_lt_of_inside? {cs inner : List Char} {kind : CollectionKind}
    (h : inside? cs = some (kind, inner)) : inner.length < cs.length := by
  have key : ∀ kind : CollectionKind, kind.inside? cs = some inner → inner.length < cs.length := by
    intro kind h
    obtain ⟨rest, h₁, h₂⟩ := Option.bind_eq_some_iff.1 h
    have h₁ := Text.after?_eq_some_iff.1 h₁
    have h₂ := Text.before?_eq_some_iff.1 h₂
    subst h₂
    simp [h₁]
    omega
  unfold inside? at h
  split at h
  · rename_i hlist
    cases h
    exact key _ hlist
  · obtain ⟨inner', hset, h⟩ := Option.map_eq_some_iff.1 h
    cases h
    exact key _ hset

/-- Reads a type that has no brackets and names no component. -/
def ofWord (word : String) : Except ConfigError ValueType :=
  match Scalar.ofName? word with
  | some s => .ok (.scalar s)
  | none =>
    match CollectionKind.ofName? word with
    | some kind => .ok (.bare kind)
    | none =>
      if word = "" then .error .emptyValueType
      else if word.toList.any fun c => c == '<' || c == '>' || c == ' ' then
        .error (.invalidValueType word)
      else .ok (.named word)

/-- Reads a type from its characters. -/
def ofChars (cs : List Char) : Except DeclarationError ValueType :=
  match Text.after? "component:".toList (Text.trimChars cs) with
  | some name => do return .component (← ComponentType.parse (String.ofList name))
  | none =>
    match _h : inside? (Text.trimChars cs) with
    | some (kind, inner) => do return .collection kind (← ofChars inner)
    | none => ofWord (String.ofList (Text.trimChars cs))
termination_by cs.length
decreasing_by exact Nat.lt_of_lt_of_le (length_lt_of_inside? _h) (Text.length_trimChars_le cs)

/-- Reads a type. -/
def parse (text : String) : Except DeclarationError ValueType :=
  ofChars text.toList

/-- The text of a type. -/
def text : ValueType → String
  | scalar s => s.name
  | component c => "component:" ++ c.text
  | bare kind => kind.name
  | collection kind element => kind.name ++ "<" ++ element.text ++ ">"
  | named name => name

/-- Whether values are integers of 32 or 64 bits. -/
def isInteger : ValueType → Bool
  | scalar s => s.isInteger
  | _ => false

/-- Whether values are lists or sets. -/
def isCollection : ValueType → Bool
  | bare _ | collection .. => true
  | _ => false

/-- The component that the type names. -/
def component? : ValueType → Option ComponentType
  | component c => some c
  | _ => none

/-- The type of the elements of a collection; anything goes where none is declared. -/
def element? : ValueType → Option ValueType
  | bare _ => some (.scalar .any)
  | collection _ element => some element
  | _ => none

end ValueType

end KeyedSql
