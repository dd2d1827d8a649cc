import KeyedSql.Proofs.Schema.Paths
import Mathlib.Logic.Function.Iterate

/-!
# The resolution of paths

A path is resolved exactly if associations with single components lead along its segments to a
component that has the last of them; where they do not, the error tells the segment at which the
walk stopped. Resolution composes: a path behind another one means what it means by itself, seen
from the component that the other one leads to, however often the way comes through a component.
-/

namespace KeyedSql

open Outcome

/-! ## Paths one behind the other -/

namespace PropertyPath

/-- The segments of a path and then those of another one. -/
def append (p q : PropertyPath) : PropertyPath :=
  ⟨p.first, p.rest ++ q.segments⟩

theorem segments_append (p q : PropertyPath) : (p.append q).segments = p.segments ++ q.segments :=
  rfl

theorem leading_append (p q : PropertyPath) : (p.append q).leading = p.segments ++ q.leading := by
  rw [leading, segments_append]
  exact List.dropLast_append_of_ne_nil q.segments_ne_nil

theorem last_append (p q : PropertyPath) : (p.append q).last = q.last := by
  simp only [last, segments_append]
  exact List.getLast_append_of_ne_nil _ q.segments_ne_nil

theorem text_append (p q : PropertyPath) : (p.append q).text = p.text ++ "." ++ q.text := by
  have hdot : String.singleton '.' = "." := rfl
  rw [text, text, text, Text.join, Text.join, Text.join, hdot, segments_append, List.map_append]
  apply String.intercalate_append_of_ne_nil
  · simpa using p.segments_ne_nil
  · simpa using q.segments_ne_nil

end PropertyPath

namespace Registry

variable {r : Registry} {c : Component} {type : ComponentType} {path : PropertyPath}
  {e : ConfigError}

/-! ## Where a walk stops -/

/-- No single-valued association leads on from the component along the segment: it has no property
of this name, or the first one does not lead to a registered component. -/
inductive Stops (r : Registry) (refused : Identifier → ConfigError) (c : Component)
    (segment : Identifier) : ConfigError → Prop where
  | unknown (hnone : c.find? segment.text = none) :
      Stops r refused c segment (.unknownProperty c.name segment.text)
  | refused {p : Property} (hp : c.find? segment.text = some p)
      (hends : ∀ next ∈ r.components, ¬ p.Associates next.name) :
      Stops r refused c segment (refused segment)

theorem associated?_eq_none_iff {p : Property} :
    r.associated? p = none ↔ ∀ next ∈ r.components, ¬ p.Associates next.name := by
  simp only [Option.eq_none_iff_forall_ne_some, ne_eq, associated?_eq_some_iff]
  constructor
  · intro h next hnext hassociates
    exact h next ⟨hassociates, hnext⟩
  · rintro h next ⟨hassociates, hnext⟩
    exact h next hnext hassociates

theorem property_eq_error_iff {name : String} :
    c.property name = .error e ↔ c.find? name = none ∧ e = .unknownProperty c.name name := by
  unfold Component.property
  cases c.find? name with
  | none => simp [eq_comm]
  | some p => simp

theorem stops_iff {refused : Identifier → ConfigError} {segment : Identifier} :
    r.Stops refused c segment e ↔
      c.property segment.text = .error e ∨
        ∃ p, c.property segment.text = .ok p ∧ r.associated? p = none ∧ e = refused segment := by
  rw [property_eq_error_iff]
  simp only [Component.property_eq_ok_iff, associated?_eq_none_iff]
  constructor
  · intro h
    cases h with
    | unknown hnone => exact .inl ⟨hnone, rfl⟩
    | refused hp hends => exact .inr ⟨_, hp, hends, rfl⟩
  · rintro (⟨hnone, rfl⟩ | ⟨p, hp, hends, rfl⟩)
    · exact .unknown hnone
    · exact .refused hp hends

/-- A walk fails at the first segment along which no association leads on. -/
theorem walk_eq_error_iff {refused : Identifier → ConfigError} {segments : List Identifier} :
    r.walk refused c segments = .error e ↔
      ∃ before segment after owner, segments = before ++ segment :: after ∧
        r.Leads c before owner ∧ r.Stops refused owner segment e := by
  induction segments generalizing c with
  | nil => simp [walk]
  | cons segment segments ih =>
    rw [walk, bind_eq_error_iff]
    constructor
    · rintro (herror | ⟨p, hp, herror⟩)
      · exact ⟨[], segment, segments, c, rfl, .here c, stops_iff.2 (.inl herror)⟩
      cases hnext : r.associated? p with
      | none =>
        rw [hnext] at herror
        cases herror
        exact ⟨[], segment, segments, c, rfl, .here c, stops_iff.2 (.inr ⟨p, hp, hnext, rfl⟩)⟩
      | some next =>
        rw [hnext] at herror
        obtain ⟨before, at', after, owner, rfl, hleads, hstops⟩ := ih.1 herror
        obtain ⟨hassociates, hmem⟩ := associated?_eq_some_iff.1 hnext
        have hp := Component.property_eq_ok_iff.1 hp
        exact ⟨segment :: before, at', after, owner, rfl, .through hp hassociates hmem hleads,
          hstops⟩
    · rintro ⟨before, at', after, owner, hsegments, hleads, hstops⟩
      cases hleads with
      | here =>
        obtain ⟨rfl, -⟩ := List.cons.inj hsegments
        rcases stops_iff.1 hstops with herror | ⟨p, hp, hnone, rfl⟩
        · exact .inl herror
        · refine .inr ⟨p, hp, ?_⟩
          rw [hnone]
      | through hp hassociates hmem hrest =>
        obtain ⟨rfl, rfl⟩ := List.cons.inj hsegments
        refine .inr ⟨_, Component.property_eq_ok_iff.2 hp, ?_⟩
        rw [associated?_eq_some_iff.2 ⟨hassociates, hmem⟩]
        exact ih.2 ⟨_, _, _, _, rfl, hrest, hstops⟩

/-! ## What a path is resolved to -/

/-- Associations lead from the type along the leading segments to the owner of the property, the
first of the name of the last segment. -/
def ResolvesTo (r : Registry) (type : ComponentType) (path : PropertyPath)
    (target : OwnedProperty) : Prop :=
  ∃ start, r.find? type = some start ∧ r.Leads start path.leading target.owner ∧
    target.owner.find? path.last.text = some target.property

/-- A path from a type leads nowhere, for the reason that the error tells. -/
inductive Unresolved (r : Registry) (type : ComponentType) (path : PropertyPath) :
    ConfigError → Prop where
  /-- There is no component to begin at. -/
  | start (hnone : r.find? type = none) : Unresolved r type path (.unknownComponent type)
  /-- The way ends at a segment before the last one. -/
  | leading {start owner : Component} {before after : List Identifier} {segment : Identifier}
      {e : ConfigError} (hstart : r.find? type = some start)
      (hpath : path.leading = before ++ segment :: after) (hleads : r.Leads start before owner)
      (hstops : r.Stops (.notAnAssociation type path) owner segment e) : Unresolved r type path e
  /-- The component at the end of the way has no property of the last name. -/
  | last {start owner : Component} (hstart : r.find? type = some start)
      (hleads : r.Leads start path.leading owner) (hnone : owner.find? path.last.text = none) :
      Unresolved r type path (.unknownProperty owner.name path.last.text)

theorem component_eq_error_iff :
    r.component type = .error e ↔ r.find? type = none ∧ e = .unknownComponent type := by
  unfold component
  cases r.find? type with
  | none => simp [eq_comm]
  | some c => simp

theorem propertyAt_eq_error_iff : r.propertyAt type path = .error e ↔ r.Unresolved type path e := by
  simp only [propertyAt, bind_eq_error_iff, component_eq_error_iff, component_eq_ok_iff,
    walk_eq_error_iff, walk_eq_ok_iff, property_eq_error_iff, pure, Except.pure, reduceCtorEq,
    and_false, exists_false, or_false]
  constructor
  · rintro (⟨hnone, rfl⟩ | ⟨start, hstart, ⟨before, segment, after, owner, hpath, hleads, hstops⟩ |
      ⟨owner, hleads, hnone, rfl⟩⟩)
    · exact .start hnone
    · exact .leading hstart hpath hleads hstops
    · exact .last hstart hleads hnone
  · intro h
    cases h with
    | start hnone => exact .inl ⟨hnone, rfl⟩
    | leading hstart hpath hleads hstops =>
      exact .inr ⟨_, hstart, .inl ⟨_, _, _, _, hpath, hleads, hstops⟩⟩
    | last hstart hleads hnone => exact .inr ⟨_, hstart, .inr ⟨_, hleads, hnone, rfl⟩⟩

theorem exists_propertyAt_eq_error_iff :
    (∃ e, r.propertyAt type path = .error e) ↔ ¬ ∃ target, r.ResolvesTo type path target := by
  have hok : (∃ target, r.propertyAt type path = .ok target) ↔
      ∃ target, r.ResolvesTo type path target :=
    exists_congr fun _ => propertyAt_eq_ok_iff_leads
  rw [← hok, exists_eq_ok_iff, not_not]

/-! ## Composition -/

variable {start middle : Component} {p q : PropertyPath} {target : OwnedProperty}

/-- A path behind another one goes on where that one has led to. -/
theorem resolvesTo_append_iff (hstart : r.find? type = some start)
    (hleads : r.Leads start p.segments middle) :
    r.ResolvesTo type (p.append q) target ↔ r.ResolvesTo middle.name q target := by
  have hmiddle : r.find? middle.name = some middle :=
    find?_eq_some_iff.2 ⟨hleads.mem (mem_of_find? hstart), rfl⟩
  unfold ResolvesTo
  rw [PropertyPath.leading_append, PropertyPath.last_append, hstart, hmiddle]
  simp only [Option.some.injEq, exists_eq_left', leads_append_iff]
  constructor
  · rintro ⟨⟨between, hfirst, hrest⟩, hlast⟩
    rw [hfirst.unique hleads] at hrest
    exact ⟨hrest, hlast⟩
  · rintro ⟨hrest, hlast⟩
    exact ⟨⟨middle, hleads, hrest⟩, hlast⟩

/-- Going round a cycle of associations any number of times changes nothing. -/
theorem resolvesTo_iterate_append_iff (hstart : r.find? type = some start)
    (hcycle : r.Leads start p.segments start) (turns : ℕ) :
    r.ResolvesTo type (p.append^[turns] q) target ↔ r.ResolvesTo type q target := by
  induction turns with
  | zero => rfl
  | succ turns ih =>
    rw [Function.iterate_succ_apply', resolvesTo_append_iff hstart hcycle, name_eq_of_find? hstart]
    exact ih

/-- A path is resolved exactly if associations lead along it, and appended paths in turn. -/
theorem propertyAt_exact (r : Registry) (type : ComponentType) (path : PropertyPath) :
    (∀ target, r.propertyAt type path = .ok target ↔ r.ResolvesTo type path target) ∧
      (∀ e, r.propertyAt type path = .error e ↔ r.Unresolved type path e) ∧
      ((∃ e, r.propertyAt type path = .error e) ↔ ¬ ∃ target, r.ResolvesTo type path target) ∧
      ∀ (start middle : Component) (p : PropertyPath), r.find? type = some start →
        r.Leads start p.segments middle →
        (p.append path).text = p.text ++ "." ++ path.text ∧
          (∀ target, r.propertyAt type (p.append path) = .ok target ↔
            r.propertyAt middle.name path = .ok target) ∧
          (middle = start → ∀ turns target, r.propertyAt type (p.append^[turns] path) = .ok target ↔
            r.propertyAt type path = .ok target) := by
  have hresolves : ∀ type path target,
      r.propertyAt type path = .ok target ↔ r.ResolvesTo type path target :=
    fun _ _ _ => propertyAt_eq_ok_iff_leads
  refine ⟨hresolves type path, fun e => propertyAt_eq_error_iff, exists_propertyAt_eq_error_iff, ?_⟩
  intro start middle p hstart hleads
  simp only [hresolves]
  refine ⟨p.text_append path, fun target => resolvesTo_append_iff hstart hleads, ?_⟩
  rintro rfl turns target
  exact resolvesTo_iterate_append_iff hstart hleads turns

end Registry

/-! ## Round a cycle -/

/-- A ship; the component of its captain is declared with the association. -/
def Component.ship : Component where
  name := ⟨"a.Ship", by decide⟩
  table := some "SHIP"
  cacheLinks := []
  properties := [
    { Property.ofType "captain" (.scalar .text) with
      association := some ⟨some ⟨"a.Captain", by decide⟩⟩ },
    Property.ofType "name" (.scalar .text)]

/-- A captain; the component of the ship is the type of the property. -/
def Component.captain : Component where
  name := ⟨"a.Captain", by decide⟩
  table := some "CAPTAIN"
  cacheLinks := []
  properties := [
    { Property.ofType "ship" (.component ⟨"a.Ship", by decide⟩) with association := some ⟨none⟩ }]

namespace Registry

/-- Ships and captains, which lead to each other. -/
def fleet : Registry :=
  ⟨[.ship, .captain], by decide⟩

/-- However often a path goes round from the ship, it ends at the ship's name. -/
theorem propertyAt_exact_fleet :
    let name := PropertyPath.ofIdentifier ⟨"name", by decide⟩
    let round : PropertyPath := ⟨⟨"captain", by decide⟩, [⟨"ship", by decide⟩]⟩
    fleet.find? ⟨"a.Ship", by decide⟩ = some .ship ∧ fleet.Leads .ship round.segments .ship ∧
      ∀ turns, fleet.propertyAt ⟨"a.Ship", by decide⟩ (round.append^[turns] name) =
        .ok ⟨.ship, Property.ofType "name" (.scalar .text)⟩ := by
  intro name round
  have hship : fleet.find? ⟨"a.Ship", by decide⟩ = some .ship := by decide
  have hback : fleet.Leads .captain [⟨"ship", by decide⟩] .ship :=
    .through rfl ⟨rfl, .inr ⟨rfl, rfl⟩⟩ (List.mem_cons_self ..) (.here _)
  have hround : fleet.Leads .ship round.segments .ship :=
    .through rfl ⟨rfl, .inl rfl⟩ (List.mem_cons_of_mem _ (List.mem_cons_self ..)) hback
  obtain ⟨hresolves, -, -, hcomposed⟩ := propertyAt_exact fleet ⟨"a.Ship", by decide⟩ name
  refine ⟨hship, hround, fun turns => ?_⟩
  obtain ⟨-, -, hturns⟩ := hcomposed _ _ _ hship hround
  rw [hturns rfl turns, hresolves]
  exact ⟨_, hship, .here _, rfl⟩

end Registry

end KeyedSql
