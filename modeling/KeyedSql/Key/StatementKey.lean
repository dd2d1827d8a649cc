import KeyedSql.Name.ComponentType
import KeyedSql.Name.PropertyPath

/-!
# Statement keys

A `StatementKey` is an operation with its parameters, asked of a component. Keys are plain data:
`StatementKey.check` says which of them are well formed, namely those whose required lists are not
empty and whose lists of properties name each property once.
-/

namespace KeyedSql

/-- A sort direction. -/
inductive SortDirection where
  | ascending
  | descending
  deriving DecidableEq, Repr

/-- One entry of a sort order. -/
structure OrderEntry where
  property : PropertyPath
  direction : SortDirection
  deriving DecidableEq

/-- One step of a chain of joins: a join table, its columns that meet the columns of the step
before, and its columns that the next step meets. -/
structure JoinStep where
  table : Identifier
  sourceColumns : List Identifier
  targetColumns : List Identifier
  deriving DecidableEq

/-- The rows that a finder over join tables looks for. -/
structure JoinSearch where
  source : ComponentType
  sourceProperties : List PropertyPath
  targetProperties : List PropertyPath
  joins : List JoinStep
  deriving DecidableEq

/-- An operation with its parameters. -/
inductive Request where
  | findEntityById
  | findComponentsBy (properties : List PropertyPath) (orderBy : List OrderEntry)
      (ignoreCancel : Bool)
  | findComponentsByJoinTable (search : JoinSearch) (orderBy : List OrderEntry)
      (ignoreCancel : Bool)
  | insert
  | update (nlsProperties : Option (List Identifier))
  | delete
  | deleteEntityById
  | deleteComponentsBy (properties : List PropertyPath)
  | findNlsColumn (property : Identifier)
  deriving DecidableEq

/-- A request of a component. -/
structure StatementKey where
  component : ComponentType
  request : Request
  deriving DecidableEq

namespace SortDirection

/-- The direction's name in a key. -/
def name : SortDirection → String
  | ascending => "Asc"
  | descending => "Desc"

/-- The direction's keyword in a statement. -/
def keyword : SortDirection → String
  | ascending => "ASC"
  | descending => "DESC"

/-- Reads a direction. -/
def parse (token : String) : Except GrammarError SortDirection :=
  if token = "Asc" then .ok ascending
  else if token = "Desc" then .ok descending
  else .error (.invalidDirection token)

end SortDirection

/-- The operation of a request. -/
def Request.operation : Request → Operation
  | findEntityById => .findEntityById
  | findComponentsBy .. => .findComponentsBy
  | findComponentsByJoinTable .. => .findComponentsByJoinTable
  | insert => .insert
  | update _ => .update
  | delete => .delete
  | deleteEntityById => .deleteEntityById
  | deleteComponentsBy _ => .deleteComponentsBy
  | findNlsColumn _ => .findNlsColumn

/-- The operation of a key. -/
def StatementKey.operation (key : StatementKey) : Operation :=
  key.request.operation

/-! ## Well-formed keys -/

/-- The first item that stands in `seen` or earlier in the list. -/
def firstRepeat {α : Type} [DecidableEq α] (seen : List α) : List α → Option α
  | [] => none
  | x :: xs => if x ∈ seen then some x else firstRepeat (x :: seen) xs

/-- Refuses an empty list parameter. -/
def checkNonempty {α : Type} (parameter : String) (items : List α) : Except GrammarError Unit :=
  if items.isEmpty then .error (.emptyValue parameter) else .ok ()

/-- Refuses a list parameter with an item that is already in it. -/
def checkDistinct {α : Type} [DecidableEq α] (parameter : String) (text : α → String)
    (items : List α) : Except GrammarError Unit :=
  match firstRepeat [] items with
  | some item => .error (.duplicateEntry parameter (text item))
  | none => .ok ()

/-- Refuses a join step with an empty list of columns. -/
def JoinStep.check (step : JoinStep) : Except GrammarError Unit := do
  checkNonempty Parameter.join step.sourceColumns
  checkNonempty Parameter.join step.targetColumns

/-- Refuses a sort order with two entries for one property. -/
def OrderEntry.checkDistinct (orderBy : List OrderEntry) : Except GrammarError Unit :=
  KeyedSql.checkDistinct Parameter.orderBy PropertyPath.text (orderBy.map (·.property))

/-- Refuses a request with an empty list where one is required, or with a repeated property. -/
def Request.check : Request → Except GrammarError Unit
  | findEntityById | insert | delete | deleteEntityById | findNlsColumn _ | update none => .ok ()
  | findComponentsBy properties orderBy _ => do
    checkNonempty Parameter.properties properties
    checkDistinct Parameter.properties PropertyPath.text properties
    OrderEntry.checkDistinct orderBy
  | findComponentsByJoinTable search orderBy _ => do
    checkNonempty Parameter.sourceProperties search.sourceProperties
    checkNonempty Parameter.targetProperties search.targetProperties
    checkNonempty Parameter.join search.joins
    search.joins.forM JoinStep.check
    checkDistinct Parameter.sourceProperties PropertyPath.text search.sourceProperties
    checkDistinct Parameter.targetProperties PropertyPath.text search.targetProperties
    OrderEntry.checkDistinct orderBy
  | update (some names) => checkDistinct Parameter.nlsProperties Identifier.text names
  | deleteComponentsBy properties => do
    checkNonempty Parameter.properties properties
    checkDistinct Parameter.properties PropertyPath.text properties

/-- The key, unless its request is refused. -/
def StatementKey.validated (key : StatementKey) : Except GrammarError StatementKey := do
  key.request.check
  return key

theorem firstRepeat_eq_none_iff {α : Type} [DecidableEq α] {seen xs : List α} :
    firstRepeat seen xs = none ↔ xs.Nodup ∧ ∀ x ∈ xs, x ∉ seen := by
  induction xs generalizing seen with
  | nil => simp [firstRepeat]
  | cons x xs ih =>
    by_cases h : x ∈ seen
    · simp [firstRepeat, h]
    · simp only [firstRepeat, if_neg h, ih, List.nodup_cons, List.mem_cons, forall_eq_or_imp,
        not_or]
      constructor
      · rintro ⟨hnd, hx⟩
        exact ⟨⟨fun hm => (hx x hm).1 rfl, hnd⟩, h, fun y hy => (hx y hy).2⟩
      · rintro ⟨⟨hm, hnd⟩, _, hx⟩
        exact ⟨hnd, fun y hy => ⟨fun e => hm (e ▸ hy), hx y hy⟩⟩

theorem checkNonempty_eq_ok_iff {α : Type} {parameter : String} {items : List α} :
    checkNonempty parameter items = .ok () ↔ items ≠ [] := by
  cases items <;> simp [checkNonempty]

theorem checkDistinct_eq_ok_iff {α : Type} [DecidableEq α] {parameter : String} {text : α → String}
    {items : List α} : checkDistinct parameter text items = .ok () ↔ items.Nodup := by
  have h := @firstRepeat_eq_none_iff α _ [] items
  unfold checkDistinct
  split <;> simp_all

end KeyedSql
