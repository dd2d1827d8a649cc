import KeyedSql.Proofs.Links.Relation
import KeyedSql.Proofs.Schema.Columns

/-!
# Walks over associations

`Registry.Leads` says which component the leading segments of a path lead to: each of them names an
association with a single component, and that component is registered. Walking finds this component
and fails where there is none.
-/

namespace KeyedSql

open Outcome

/-- The property is an association with one component of the type, which it names itself or by its
own type. -/
def Property.Associates (p : Property) (t : ComponentType) : Prop :=
  p.collection = none ∧
    (p.association = some ⟨some t⟩ ∨ p.association = some ⟨none⟩ ∧ p.type = .component t)

namespace Registry

/-- Associations lead from a component, segment by segment, to another one. Of several properties of
a name, the first one counts. -/
inductive Leads (r : Registry) : Component → List Identifier → Component → Prop where
  | here (c : Component) : Leads r c [] c
  | through {c next last : Component} {p : Property} {segment : Identifier}
      {segments : List Identifier} (hp : c.find? segment.text = some p)
      (hassociates : p.Associates next.name) (hnext : next ∈ r.components)
      (hrest : Leads r next segments last) : Leads r c (segment :: segments) last

variable {r : Registry}

theorem associated?_eq_some_iff {p : Property} {c : Component} :
    r.associated? p = some c ↔ p.Associates c.name ∧ c ∈ r.components := by
  unfold associated? Property.Associates
  cases hcollection : p.collection with
  | some collection => simp
  | none =>
    simp only [Option.isSome_none, Bool.false_eq_true, if_false, Option.bind_eq_some_iff,
      find?_eq_some_iff, Property.associationTarget?_eq_some_iff, true_and]
    constructor
    · rintro ⟨t, htarget, hc, rfl⟩
      exact ⟨htarget, hc⟩
    · rintro ⟨htarget, hc⟩
      exact ⟨c.name, htarget, hc, rfl⟩

theorem walk_eq_ok_iff {refused : Identifier → ConfigError} {c last : Component}
    {segments : List Identifier} :
    r.walk refused c segments = .ok last ↔ r.Leads c segments last := by
  induction segments generalizing c with
  | nil =>
    constructor
    · rintro ⟨⟩
      exact .here _
    · rintro ⟨⟩
      rfl
  | cons segment segments ih =>
    rw [walk_cons_eq_ok_iff]
    constructor
    · rintro ⟨p, next, hp, hnext, hrest⟩
      obtain ⟨hassociates, hmem⟩ := associated?_eq_some_iff.1 hnext
      exact .through hp hassociates hmem (ih.1 hrest)
    · intro h
      cases h with
      | through hp hassociates hnext hrest =>
        exact ⟨_, _, hp, associated?_eq_some_iff.2 ⟨hassociates, hnext⟩, ih.2 hrest⟩

theorem leads_append_iff {c last : Component} {segments segments' : List Identifier} :
    r.Leads c (segments ++ segments') last ↔
      ∃ middle, r.Leads c segments middle ∧ r.Leads middle segments' last := by
  induction segments generalizing c with
  | nil =>
    constructor
    · intro h
      exact ⟨c, .here c, h⟩
    · rintro ⟨middle, hfirst, hrest⟩
      cases hfirst
      exact hrest
  | cons segment segments ih =>
    constructor
    · intro h
      cases h with
      | through hp hassociates hnext hrest =>
        obtain ⟨middle, hfirst, hrest⟩ := ih.1 hrest
        exact ⟨middle, .through hp hassociates hnext hfirst, hrest⟩
    · rintro ⟨middle, hfirst, hrest⟩
      cases hfirst with
      | through hp hassociates hnext hfirst =>
        exact .through hp hassociates hnext (ih.2 ⟨middle, hfirst, hrest⟩)

/-- Segments lead from a component to one other at most. -/
theorem Leads.unique {c last last' : Component} {segments : List Identifier}
    (h : r.Leads c segments last) (h' : r.Leads c segments last') : last = last' := by
  -- Walking along the segments has one outcome, whatever it would report of a segment.
  have hwalk : r.walk (fun _ => .emptyValueType) c segments = .ok last := walk_eq_ok_iff.2 h
  rw [walk_eq_ok_iff.2 h', Except.ok.injEq] at hwalk
  exact hwalk.symm

theorem Leads.mem {c last : Component} {segments : List Identifier} (h : r.Leads c segments last)
    (hc : c ∈ r.components) : last ∈ r.components := by
  have hwalk : r.walk (fun _ => .emptyValueType) c segments = .ok last := walk_eq_ok_iff.2 h
  exact mem_of_walk hc hwalk

/-- A path is resolved to the property that its last segment names, where the others lead. -/
theorem propertyAt_eq_ok_iff_leads {type : ComponentType} {path : PropertyPath}
    {target : OwnedProperty} :
    r.propertyAt type path = .ok target ↔
      ∃ start, r.find? type = some start ∧ r.Leads start path.leading target.owner ∧
        target.owner.find? path.last.text = some target.property := by
  simp only [propertyAt_eq_ok_iff, component_eq_ok_iff, walk_eq_ok_iff,
    Component.property_eq_ok_iff]

end Registry

end KeyedSql
