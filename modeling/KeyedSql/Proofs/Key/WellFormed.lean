import KeyedSql.Key.StatementKey
import KeyedSql.Proofs.Outcome

/-!
# Well-formed requests

`Request.WellFormed` states the rules of a request without the order in which they are checked, and
`Request.check` accepts exactly the requests that obey them.
-/

namespace KeyedSql

open Outcome

/-- The rule of a join step: neither of its lists of columns is empty. -/
def JoinStep.WellFormed (step : JoinStep) : Prop :=
  step.sourceColumns ≠ [] ∧ step.targetColumns ≠ []

/-- The rule of a search over join tables: there are source properties, target properties and joins,
no property is listed twice, and every join is well formed. -/
structure JoinSearch.WellFormed (search : JoinSearch) : Prop where
  sourceProperties_ne_nil : search.sourceProperties ≠ []
  targetProperties_ne_nil : search.targetProperties ≠ []
  joins_ne_nil : search.joins ≠ []
  joins_wellFormed : ∀ step ∈ search.joins, step.WellFormed
  nodup_sourceProperties : search.sourceProperties.Nodup
  nodup_targetProperties : search.targetProperties.Nodup

/-- The rules of a request: required lists are not empty, and no list names a property twice. -/
def Request.WellFormed : Request → Prop
  | findEntityById | insert | delete | deleteEntityById | findNlsColumn _ => True
  | findComponentsBy properties orderBy _ =>
    properties ≠ [] ∧ properties.Nodup ∧ (orderBy.map (·.property)).Nodup
  | findComponentsByJoinTable search orderBy _ =>
    search.WellFormed ∧ (orderBy.map (·.property)).Nodup
  | update nlsProperties => ∀ names ∈ nlsProperties, names.Nodup
  | deleteComponentsBy properties => properties ≠ [] ∧ properties.Nodup

/-- The rules of a key are those of its request. -/
def StatementKey.WellFormed (key : StatementKey) : Prop :=
  key.request.WellFormed

theorem OrderEntry.checkDistinct_eq_ok_iff {orderBy : List OrderEntry} :
    OrderEntry.checkDistinct orderBy = .ok () ↔ (orderBy.map (·.property)).Nodup := by
  rw [OrderEntry.checkDistinct, KeyedSql.checkDistinct_eq_ok_iff]

theorem JoinStep.check_eq_ok_iff {step : JoinStep} : step.check = .ok () ↔ step.WellFormed := by
  rw [check, check_bind_eq_ok_iff, checkNonempty_eq_ok_iff, checkNonempty_eq_ok_iff, WellFormed]

theorem JoinSearch.wellFormed_iff {search : JoinSearch} :
    search.WellFormed ↔
      search.sourceProperties ≠ [] ∧ search.targetProperties ≠ [] ∧ search.joins ≠ [] ∧
        (∀ step ∈ search.joins, step.WellFormed) ∧ search.sourceProperties.Nodup ∧
          search.targetProperties.Nodup :=
  ⟨fun ⟨h₁, h₂, h₃, h₄, h₅, h₆⟩ => ⟨h₁, h₂, h₃, h₄, h₅, h₆⟩,
    fun ⟨h₁, h₂, h₃, h₄, h₅, h₆⟩ => ⟨h₁, h₂, h₃, h₄, h₅, h₆⟩⟩

theorem Request.check_eq_ok_iff {request : Request} :
    request.check = .ok () ↔ request.WellFormed := by
  cases request with
  | findEntityById | insert | delete | deleteEntityById | findNlsColumn =>
    exact iff_of_true rfl trivial
  | findComponentsBy properties orderBy ignoreCancel =>
    rw [check, check_bind_eq_ok_iff, check_bind_eq_ok_iff, checkNonempty_eq_ok_iff,
      checkDistinct_eq_ok_iff, OrderEntry.checkDistinct_eq_ok_iff, WellFormed]
  | findComponentsByJoinTable search orderBy ignoreCancel =>
    simp only [check, check_bind_eq_ok_iff, checkNonempty_eq_ok_iff, forM_eq_ok_iff,
      JoinStep.check_eq_ok_iff, checkDistinct_eq_ok_iff, OrderEntry.checkDistinct_eq_ok_iff,
      WellFormed, JoinSearch.wellFormed_iff, and_assoc]
  | update nlsProperties =>
    cases nlsProperties with
    | none => exact iff_of_true rfl (by simp [WellFormed])
    | some names =>
      rw [check, checkDistinct_eq_ok_iff]
      simp [WellFormed]
  | deleteComponentsBy properties =>
    rw [check, check_bind_eq_ok_iff, checkNonempty_eq_ok_iff, checkDistinct_eq_ok_iff, WellFormed]

theorem StatementKey.validated_eq_ok_iff {key other : StatementKey} :
    key.validated = .ok other ↔ key.WellFormed ∧ key = other := by
  rw [validated, check_bind_eq_ok_iff, Request.check_eq_ok_iff, WellFormed]
  exact and_congr_right fun _ => by simp [pure, Except.pure]

end KeyedSql
