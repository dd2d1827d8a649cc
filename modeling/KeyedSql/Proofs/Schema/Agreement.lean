import KeyedSql.Proofs.Links.Relation
import KeyedSql.Proofs.Schema.Columns

/-!
# Registries that agree

`Registry.AgreeOn P r s` says that two registries hold the same components of the types in `P`, and
that those mention no other types. Whatever is looked up from a type in `P` is then the same in
both: a lookup is for a type in `P`, or for one that a component already found mentions.
-/

namespace KeyedSql

open Outcome

/-! ## Mentioned types -/

/-- The components that a value type names. -/
def ValueType.components : ValueType → List ComponentType
  | .component c => [c]
  | .collection _ element => element.components
  | .scalar _ | .bare _ | .named _ => []

/-- The components that a property mentions: in its type, as the target of its association, and as
the elements of its collection or in the collection's type. -/
def Property.mentions (p : Property) : List ComponentType :=
  p.type.components ++ (p.association.bind (·.target)).toList ++
    (p.collection.bind (·.element)).toList ++
      (p.collection.bind (·.type)).toList.flatMap ValueType.components

/-- The components that a component mentions: those of its cache links and of its properties. -/
def Component.mentions (c : Component) : List ComponentType :=
  c.cacheLinks ++ c.properties.flatMap Property.mentions

theorem Property.LeadsTo.mem_mentions {p : Property} {t : ComponentType} (h : p.LeadsTo t) :
    t ∈ p.mentions := by
  unfold Property.mentions
  cases h with
  | target hassociation => simp [hassociation]
  | type hassociation htype => simp [htype, ValueType.components]
  | element hassociation hcollection hshape helement => simp [hcollection, helement]
  | @elementType c kind t hassociation hcollection hshape helement =>
    -- The shape is declared by the collection, or else by the property.
    unfold Property.collectionType at hshape
    cases htype : c.type with
    | none =>
      rw [htype, Option.getD_none] at hshape
      simp [hshape, ValueType.components]
    | some type =>
      rw [htype, Option.getD_some] at hshape
      simp [hcollection, htype, hshape, ValueType.components]

namespace Registry

/-- Two registries hold the same components of the types in `P`, and these mention no other
types. -/
structure AgreeOn (P : ComponentType → Prop) (r s : Registry) : Prop where
  find?_eq : ∀ t, P t → s.find? t = r.find? t
  closed : ∀ c ∈ r.components, P c.name → ∀ t ∈ c.mentions, P t

namespace AgreeOn

variable {P : ComponentType → Prop} {r s : Registry} {type : ComponentType}

/-! ## Lookups -/

theorem mentions_subset (h : AgreeOn P r s) {c : Component} (hc : c ∈ r.components)
    (hname : P c.name) {p : Property} (hp : p ∈ c.properties) : ∀ t ∈ p.mentions, P t := by
  intro t ht
  refine h.closed c hc hname t (List.mem_append_right _ ?_)
  exact List.mem_flatMap.2 ⟨p, hp, ht⟩

theorem mem_components (h : AgreeOn P r s) {c : Component} (hc : c ∈ r.components)
    (hname : P c.name) : c ∈ s.components := by
  have hfind := find?_eq_some_iff.2 ⟨hc, rfl⟩
  exact mem_of_find? ((h.find?_eq c.name hname).trans hfind)

theorem contains_eq (h : AgreeOn P r s) (htype : P type) : s.contains type = r.contains type := by
  rw [contains, contains, h.find?_eq type htype]

theorem component_eq (h : AgreeOn P r s) (htype : P type) :
    s.component type = r.component type := by
  rw [component, component, h.find?_eq type htype]

/-- What is done with a component of a type in `P` need only agree on such components. -/
theorem component_bind_congr {α : Type} (h : AgreeOn P r s) (htype : P type)
    {f g : Component → Except ConfigError α}
    (hfg : ∀ c ∈ r.components, P c.name → f c = g c) :
    s.component type >>= f = r.component type >>= g := by
  rw [h.component_eq htype]
  refine bind_congr_of_ok fun c hc => hfg c (mem_of_component hc) ?_
  rwa [name_of_component hc]

/-! ## Paths -/

theorem associated?_eq (h : AgreeOn P r s) {p : Property} (hp : ∀ t ∈ p.mentions, P t) :
    s.associated? p = r.associated? p := by
  unfold associated?
  split
  · rfl
  · cases htarget : p.associationTarget? with
    | none => rfl
    | some t =>
      exact h.find?_eq t (hp t (Property.leadsTo_of_associationTarget? htarget).mem_mentions)

theorem walk_eq (h : AgreeOn P r s) {refused : Identifier → ConfigError}
    {segments : List Identifier} {owner : Component} (howner : owner ∈ r.components)
    (hname : P owner.name) : s.walk refused owner segments = r.walk refused owner segments := by
  induction segments generalizing owner with
  | nil => rfl
  | cons segment segments ih =>
    refine bind_congr_of_ok fun p hp => ?_
    have hmentions := h.mentions_subset howner hname (Component.mem_of_property hp)
    rw [h.associated?_eq hmentions]
    cases hnext : r.associated? p with
    | none => rfl
    | some next =>
      have hleads := Property.leadsTo_of_associationTarget? (target_of_associated? hnext).1
      exact ih (mem_of_associated? hnext) (hmentions next.name hleads.mem_mentions)

theorem propertyAt_eq (h : AgreeOn P r s) (htype : P type) (path : PropertyPath) :
    s.propertyAt type path = r.propertyAt type path := by
  unfold propertyAt
  refine h.component_bind_congr htype fun start hstart hname => ?_
  rw [h.walk_eq hstart hname]

theorem columnAt_eq (h : AgreeOn P r s) (htype : P type) : s.columnAt type = r.columnAt type := by
  funext path
  rw [columnAt, columnAt, h.propertyAt_eq htype]

end AgreeOn

/-- Registries in which the same components are found agree on all types. -/
theorem agreeOn_of_find? {r s : Registry} (h : ∀ t, s.find? t = r.find? t) :
    AgreeOn (fun _ => True) r s where
  find?_eq t _ := h t
  closed _ _ _ _ _ := trivial

/-! ## Growth -/

theorem exists_register_eq_ok_iff {r : Registry} {d : Component} :
    (∃ s, r.register d = .ok s) ↔ r.contains d.name = false := by
  rw [contains, Option.isSome_eq_false_iff, Option.isNone_iff_eq_none]
  constructor
  · rintro ⟨s, hs⟩
    exact (register_eq_ok_iff.1 hs).1
  · intro hnone
    unfold register
    split
    · rename_i c hc
      cases hnone.symm.trans hc
    · exact ⟨_, rfl⟩

/-- A component of a type that no component mentions leaves all other types as they are. -/
theorem agreeOn_of_register {r s : Registry} {d : Component} (h : r.register d = .ok s)
    (hmentions : ∀ c ∈ r.components, d.name ∉ c.mentions) : AgreeOn (· ≠ d.name) r s where
  find?_eq t ht := by
    rw [find?_of_register h, if_neg (Ne.symm ht), Option.or_none]
  closed c hc _ t ht hname := hmentions c hc (hname ▸ ht)

end Registry

end KeyedSql
