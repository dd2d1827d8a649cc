/-!
# Operations

A statement key asks for one of nine operations on a component. Each has a name, which is the
second part of the key's head, and a list of parameters, which a key gives in that order.
-/

namespace KeyedSql

/-- What a statement does with the component of its key. -/
inductive Operation where
  | findEntityById
  | findComponentsBy
  | findComponentsByJoinTable
  | insert
  | update
  | delete
  | deleteEntityById
  | deleteComponentsBy
  | findNlsColumn
  deriving DecidableEq, Repr

/-! ## Parameter names -/

namespace Parameter

def property : String := "property"

def properties : String := "properties"

def sourceComponent : String := "sourceComponent"

def sourceProperties : String := "sourceProperties"

def targetProperties : String := "targetProperties"

def nlsProperties : String := "nlsProperties"

def join : String := "join"

def orderBy : String := "orderBy"

def ignoreCancel : String := "ignoreCancel"

end Parameter

namespace Operation

/-- Every operation, once. -/
def all : List Operation :=
  [findEntityById, findComponentsBy, findComponentsByJoinTable, insert, update, delete,
    deleteEntityById, deleteComponentsBy, findNlsColumn]

/-- The operation's name in a key. -/
def name : Operation → String
  | findEntityById => "findEntityById"
  | findComponentsBy => "findComponentsBy"
  | findComponentsByJoinTable => "findComponentsByJoinTable"
  | insert => "insert"
  | update => "update"
  | delete => "delete"
  | deleteEntityById => "deleteEntityById"
  | deleteComponentsBy => "deleteComponentsBy"
  | findNlsColumn => "findNlsColumn"

/-- The operation of a name; names are case-sensitive. -/
def ofName? (name : String) : Option Operation :=
  all.find? (·.name == name)

/-- Whether the operation changes rows. -/
def isWrite : Operation → Bool
  | insert | update | delete | deleteEntityById | deleteComponentsBy => true
  | findEntityById | findComponentsBy | findComponentsByJoinTable | findNlsColumn => false

/-- The names of the operation's parameters, in the order in which a key gives them. -/
def parameters : Operation → List String
  | findComponentsBy => [Parameter.properties, Parameter.orderBy, Parameter.ignoreCancel]
  | findComponentsByJoinTable =>
    [Parameter.sourceComponent, Parameter.sourceProperties, Parameter.targetProperties,
      Parameter.join, Parameter.orderBy, Parameter.ignoreCancel]
  | update => [Parameter.nlsProperties]
  | deleteComponentsBy => [Parameter.properties]
  | findNlsColumn => [Parameter.property]
  | findEntityById | insert | delete | deleteEntityById => []

theorem mem_all (op : Operation) : op ∈ all := by
  cases op <;> simp [all]

theorem name_injective {a b : Operation} (h : a.name = b.name) : a = b := by
  cases a <;> cases b <;> first | rfl | simp [name] at h

theorem ofName?_eq_some_iff {name : String} {op : Operation} :
    ofName? name = some op ↔ op.name = name := by
  constructor
  · intro h
    simpa using List.find?_some h
  · rintro rfl
    cases op <;> rfl

theorem ofName?_eq_none_iff {name : String} :
    ofName? name = none ↔ ∀ op : Operation, op.name ≠ name := by
  simp [ofName?, mem_all]

end Operation

end KeyedSql
