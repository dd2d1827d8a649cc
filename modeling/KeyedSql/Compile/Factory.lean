import KeyedSql.Compile.Read
import KeyedSql.Compile.Write
import KeyedSql.Key.Reader

/-!
# Statement factories

A factory compiles the keys of some operations. Whether it accepts a key depends on the key's head
alone; the parameters are read when the factory has been chosen. A request of an operation that is
not one of its own is not found by a factory. Factories are asked in order, and the first that
accepts a key compiles it.
-/

namespace KeyedSql

/-- A compiler of the keys of some operations. -/
structure StatementFactory where
  name : String
  operations : List Operation
  /-- Compiles a key that has been read, given its text. -/
  compile : Environment → String → StatementKey → Except Error Statement

namespace StatementFactory

/-- Whether the factory compiles keys with this head. -/
def accepts (f : StatementFactory) (key : String) : Bool :=
  match Operation.ofKey? key with
  | some op => f.operations.contains op
  | none => false

/-- Reads a key that the factory accepts. -/
def read (f : StatementFactory) (key : String) : Except Error StatementKey :=
  match Operation.ofKey? key with
  | some op =>
    if f.operations.contains op then StatementKey.parseAs op key else .error (.notFound key)
  | none => .error (.notFound key)

/-- Compiles a key that the factory accepts. -/
def create (f : StatementFactory) (env : Environment) (key : String) : Except Error Statement := do
  let decoded ← f.read key
  f.compile env key decoded

/-- The factory of inserts. -/
def insert : StatementFactory where
  name := "insert"
  operations := [.insert]
  compile env id key := env.insertStatement id key.component

/-- The factory of updates. -/
def update : StatementFactory where
  name := "update"
  operations := [.update]
  compile env id key :=
    match key.request with
    | .update nlsProperties => env.updateStatement id key.component nlsProperties
    | _ => .error (.notFound id)

/-- The factory of deletes. -/
def delete : StatementFactory where
  name := "delete"
  operations := [.delete, .deleteEntityById, .deleteComponentsBy]
  compile env id key :=
    match key.request with
    | .delete => env.deleteStatement id key.component .unchangedEntity
    | .deleteEntityById => env.deleteStatement id key.component .entity
    | .deleteComponentsBy properties => env.deleteStatement id key.component (.matching properties)
    | _ => .error (.notFound id)

/-- The factory of finders. -/
def find : StatementFactory where
  name := "find"
  operations := [.findEntityById, .findComponentsBy, .findComponentsByJoinTable]
  compile env id key :=
    match key.request with
    | .findEntityById => env.findByIdStatement id key.component
    | .findComponentsBy properties orderBy ignoreCancel =>
      env.findByStatement id key.component properties orderBy ignoreCancel
    | .findComponentsByJoinTable search orderBy ignoreCancel =>
      env.findByJoinStatement id key.component search orderBy ignoreCancel
    | _ => .error (.notFound id)

/-- The factory of localized look-ups. -/
def findNlsColumn : StatementFactory where
  name := "findNlsColumn"
  operations := [.findNlsColumn]
  compile env id key :=
    match key.request with
    | .findNlsColumn property => env.localizedColumnStatement id key.component property
    | _ => .error (.notFound id)

/-- The factories of the library, which cover every operation once. -/
def defaults : List StatementFactory :=
  [insert, update, delete, find, findNlsColumn]

/-- The first factory that accepts a key. -/
def find? (factories : List StatementFactory) (key : String) : Option StatementFactory :=
  factories.find? (·.accepts key)

/-- Compiles a key by the first factory that accepts it. -/
def dispatch (factories : List StatementFactory) (env : Environment) (key : String) :
    Except Error Statement := do
  let _ ← KeyHead.parse key
  match find? factories key with
  | some f => f.create env key
  | none => throw (.notFound key)

end StatementFactory

end KeyedSql
