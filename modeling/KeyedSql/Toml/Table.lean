import KeyedSql.Document

/-!
# Tables from lines

Assignments and headers build up one tree. Every table remembers how it came about, for that decides
what may still be added to it: a header defines a table once; a table that only lies on the way to
another one may be defined later; a table that dotted keys made belongs to the lines where it was
made and is never defined by a header; and a value is closed as soon as it is written.
-/

namespace KeyedSql.Toml

/-- A value for a key, which dotted keys may lead to. -/
structure Assignment where
  parents : List String
  key : String
  value : Document

/-- What a line says. -/
inductive Line where
  | assignment (assignment : Assignment)
  /-- The lines that follow belong to this table. -/
  | table (parents : List String) (key : String)
  /-- The lines that follow belong to a new element of this array of tables. -/
  | element (parents : List String) (key : String)

/-- How a table came about. -/
inductive Origin where
  /-- By a header, or as the root of all. -/
  | defined
  /-- On the way to a table with a header. -/
  | implied
  /-- By dotted keys. -/
  | dotted
  deriving DecidableEq

/-- A place in the tree. -/
inductive Node where
  | value (value : Document)
  | table (origin : Origin) (members : List (String × Node))
  /-- An array of tables, which headers append to. -/
  | tables (elements : List (List (String × Node)))

/-- The members of a table. -/
abbrev Members := List (String × Node)

namespace Members

/-- The node of a key. -/
def find? (members : Members) (key : String) : Option Node :=
  members.lookup key

/-- Puts a node in the place of the one of the same key, or behind all others. -/
def put (members : Members) (key : String) (node : Node) : Members :=
  match members with
  | [] => [(key, node)]
  | (k, n) :: rest => if k = key then (k, node) :: rest else (k, n) :: put rest key node

/-- The members of other keys. -/
def erase (members : Members) (key : String) : Members :=
  members.filter (·.1 ≠ key)

end Members

/-! ## Adding to tables -/

/-- Assigns a value below a table of the given origin; `outer` says that the table is the current
one, and not reached by dotted keys. -/
def assign (origin : Origin) (members : Members) (outer : Bool) (key : String) (value : Document) :
    List String → Option Members
  | [] =>
    if outer ∨ origin = .dotted then
      match members.find? key with
      | some _ => none
      | none => some (members.put key (.value value))
    else none
  | parent :: parents =>
    match members.find? parent with
    | none => do
      let inner ← assign .dotted [] false key value parents
      return members.put parent (.table .dotted inner)
    | some (.table origin inner) =>
      if origin = .defined then none
      else do
        let inner ← assign origin inner false key value parents
        return members.put parent (.table origin inner)
    | some (.tables elements) => do
      let inner ← assign .defined (elements.getLast?.getD []) false key value parents
      return members.put parent (.tables (elements.dropLast ++ [inner]))
    | some (.value _) => none

/-- Changes the table at the end of a path, creating it if need be; an array of tables stands for
its last element. -/
def changeAt (change : Members → Option Members) (members : Members) : List String → Option Members
  | [] => change members
  | key :: path =>
    match members.find? key with
    | none => do
      let inner ← changeAt change [] path
      return members.put key (.table .implied inner)
    | some (.table origin inner) => do
      let inner ← changeAt change inner path
      return members.put key (.table origin inner)
    | some (.tables elements) => do
      let inner ← changeAt change (elements.getLast?.getD []) path
      return members.put key (.tables (elements.dropLast ++ [inner]))
    | some (.value _) => none

/-- Defines a table by its header, which happens once. A table that was implied before keeps its
members and moves behind all others. -/
def define (key : String) (members : Members) : Option Members :=
  match members.find? key with
  | none => some (members.put key (.table .defined []))
  | some (.table .implied inner) => some ((members.erase key).put key (.table .defined inner))
  | some _ => none

/-- Appends an element to an array of tables. -/
def append (key : String) (members : Members) : Option Members :=
  match members.find? key with
  | none => some (members.put key (.tables [[]]))
  | some (.tables elements) => some (members.put key (.tables (elements ++ [[]])))
  | some _ => none

/-! ## The tree of all lines -/

/-- The tree so far, and the path of the table that assignments belong to. -/
structure Building where
  root : Members
  current : List String

/-- Takes in what a line says. -/
def Building.add (b : Building) : Line → Option Building
  | .assignment a => do
    let root ← changeAt (fun members => assign .defined members true a.key a.value a.parents) b.root
      b.current
    return { b with root }
  | .table parents key => do
    let root ← changeAt (define key) b.root parents
    return { root, current := parents ++ [key] }
  | .element parents key => do
    let root ← changeAt (append key) b.root parents
    return { root, current := parents ++ [key] }

mutual

/-- What a place in the tree says in the end. -/
def Node.document : Node → Document
  | .value d => d
  | .table _ members => .table (membersDocument members)
  | .tables elements => .list (elementsDocument elements)

/-- The members of a table. -/
def membersDocument : List (String × Node) → List (String × Document)
  | [] => []
  | (key, node) :: members => (key, node.document) :: membersDocument members

/-- The elements of an array of tables. -/
def elementsDocument : List (List (String × Node)) → List Document
  | [] => []
  | members :: elements => .table (membersDocument members) :: elementsDocument elements

end

/-- The document that lines make, unless one of them cannot be added. -/
def documentOf (lines : List Line) : Option Document := do
  let built ← lines.foldlM Building.add ⟨[], []⟩
  return .table (membersDocument built.root)

/-- The table that the assignments of an inline table make. -/
def tableOf (assignments : List Assignment) : Option Document :=
  documentOf (assignments.map .assignment)

end KeyedSql.Toml
