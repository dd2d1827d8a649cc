import KeyedSql.Links.Reachable
import KeyedSql.Proofs.Outcome
import Mathlib.Logic.Relation

/-!
# The link relation

`Property.LeadsTo` says which component a property leads to, and `Registry.LinksTo` which components
are linked to one in a single step. `linksOf` lists exactly the latter, for the registered
components whose collections all have the type of a collection, and fails for all others.
-/

namespace KeyedSql

open Outcome

/-! ## Properties -/

/-- The property is a collection, not hidden by an association, and its type is neither a list nor a
set. -/
def Property.IllShaped (p : Property) : Prop :=
  p.association = none ∧ ∃ c, p.collection = some c ∧ (p.collectionType c).isCollection = false

/-- The component that a property leads to. -/
inductive Property.LeadsTo (p : Property) : ComponentType → Prop where
  /-- An association leads to its declared target. -/
  | target {t : ComponentType} (hassociation : p.association = some ⟨some t⟩) : LeadsTo p t
  /-- An association without one leads to the component that is the property's type. -/
  | type {t : ComponentType} (hassociation : p.association = some ⟨none⟩)
      (htype : p.type = .component t) : LeadsTo p t
  /-- A collection leads to the declared component of its elements. -/
  | element {c : Collection} {t : ComponentType} (hassociation : p.association = none)
      (hcollection : p.collection = some c) (hshape : (p.collectionType c).isCollection = true)
      (helement : c.element = some t) : LeadsTo p t
  /-- A collection without one leads to the component that is the type of its elements. -/
  | elementType {c : Collection} {kind : CollectionKind} {t : ComponentType}
      (hassociation : p.association = none) (hcollection : p.collection = some c)
      (hshape : p.collectionType c = .collection kind (.component t))
      (helement : c.element = none) : LeadsTo p t

/-- Every collection of the component has the type of one. -/
def Component.WellShaped (c : Component) : Prop :=
  ∀ p ∈ c.properties, ¬ p.IllShaped

theorem ValueType.element?_eq_none_iff {v : ValueType} :
    v.element? = none ↔ v.isCollection = false := by
  cases v <;> simp [element?, isCollection]

theorem ValueType.exists_element?_iff {v : ValueType} :
    (∃ element, v.element? = some element) ↔ v.isCollection = true := by
  cases v <;> simp [element?, isCollection]

theorem ValueType.component?_eq_some_iff {v : ValueType} {t : ComponentType} :
    v.component? = some t ↔ v = .component t := by
  cases v <;> simp [component?]

theorem Property.associationTarget?_eq_some_iff {p : Property} {t : ComponentType} :
    p.associationTarget? = some t ↔
      p.association = some ⟨some t⟩ ∨ p.association = some ⟨none⟩ ∧ p.type = .component t := by
  unfold associationTarget?
  rcases p.association with _ | ⟨_ | u⟩ <;> simp [ValueType.component?_eq_some_iff]

theorem Property.leadsTo_of_associationTarget? {p : Property} {t : ComponentType}
    (h : p.associationTarget? = some t) : p.LeadsTo t := by
  rcases associationTarget?_eq_some_iff.1 h with h | ⟨h, htype⟩
  · exact .target h
  · exact .type h htype

theorem ValueType.element?_eq_component_iff {v : ValueType} {t : ComponentType} :
    v.element? = some (.component t) ↔ ∃ kind, v = .collection kind (.component t) := by
  cases v <;> simp [element?]

theorem Property.elementType_eq_error_iff {p : Property} {owner : ComponentType} :
    (∃ e, p.elementType owner = .error e) ↔
      ∃ c, p.collection = some c ∧ (p.collectionType c).isCollection = false := by
  unfold elementType
  cases p.collection with
  | none => simp
  | some c =>
    simp only [Option.some.injEq, exists_eq_left', ← ValueType.element?_eq_none_iff]
    cases (p.collectionType c).element? <;> simp

theorem Property.elementType_eq_ok_some_iff {p : Property} {owner : ComponentType}
    {element : ValueType} :
    p.elementType owner = .ok (some element) ↔
      ∃ c declared, p.collection = some c ∧ (p.collectionType c).element? = some declared ∧
        (c.element.map .component).getD declared = element := by
  unfold elementType
  cases p.collection with
  | none => simp
  | some c =>
    simp only [Option.some.injEq, exists_and_left, exists_eq_left']
    cases (p.collectionType c).element? <;> simp

namespace Registry

theorem propertyTarget_eq_error_iff {owner : ComponentType} {p : Property} :
    (∃ e, propertyTarget owner p = .error e) ↔ p.IllShaped := by
  unfold propertyTarget Property.IllShaped
  cases h : p.association with
  | some a => simp
  | none => simp [map_eq_error_iff, Property.elementType_eq_error_iff]

theorem propertyTarget_eq_ok_some_iff {owner : ComponentType} {p : Property} {t : ComponentType} :
    propertyTarget owner p = .ok (some t) ↔ p.LeadsTo t := by
  unfold propertyTarget
  cases hassociation : p.association with
  | some a =>
    simp only [Option.isSome_some, if_true, Except.ok.injEq,
      Property.associationTarget?_eq_some_iff]
    constructor
    · rintro (h | ⟨h, htype⟩)
      · exact .target h
      · exact .type h htype
    · intro hleads
      cases hleads with
      | target h => exact .inl h
      | type h htype => exact .inr ⟨h, htype⟩
      | element h => simp [hassociation] at h
      | elementType h => simp [hassociation] at h
  | none =>
    simp only [Option.isSome_none, Bool.false_eq_true, if_false, map_eq_ok_iff,
      Option.bind_eq_some_iff]
    constructor
    · rintro ⟨_, helement, element, rfl, hcomponent⟩
      obtain ⟨c, declared, hc, hdeclared, rfl⟩ := Property.elementType_eq_ok_some_iff.1 helement
      cases hoverride : c.element with
      | some u =>
        rw [hoverride] at hcomponent
        obtain rfl : u = t := Option.some.inj hcomponent
        exact .element hassociation hc (ValueType.exists_element?_iff.1 ⟨_, hdeclared⟩) hoverride
      | none =>
        rw [hoverride] at hcomponent
        obtain rfl := ValueType.component?_eq_some_iff.1 hcomponent
        obtain ⟨kind, hshape⟩ := ValueType.element?_eq_component_iff.1 hdeclared
        exact .elementType hassociation hc hshape hoverride
    · intro hleads
      cases hleads with
      | target h => simp [hassociation] at h
      | type h => simp [hassociation] at h
      | @element c t _ hc hshape hoverride =>
        obtain ⟨declared, hdeclared⟩ := ValueType.exists_element?_iff.2 hshape
        exact ⟨_, Property.elementType_eq_ok_some_iff.2 ⟨c, declared, hc, hdeclared, rfl⟩, _, rfl,
          by rw [hoverride]; rfl⟩
      | @elementType c kind t _ hc hshape hoverride =>
        have hdeclared : (p.collectionType c).element? = some (.component t) := by
          rw [hshape, ValueType.element?]
        exact ⟨_, Property.elementType_eq_ok_some_iff.2 ⟨c, .component t, hc, hdeclared, rfl⟩,
          _, rfl, by rw [hoverride]; rfl⟩

/-! ## Components -/

/-- A property of the component of type `a` leads to a registered component of type `b`. -/
def LeadsTo (r : Registry) (a b : ComponentType) : Prop :=
  ∃ c ∈ r.components, c.name = a ∧ (∃ p ∈ c.properties, p.LeadsTo b) ∧ r.contains b = true

/-- A registered component of type `a` has `b` as a cache link, registered or not, or a property
that leads to a registered `b`. -/
def LinksTo (r : Registry) (a b : ComponentType) : Prop :=
  (∃ c ∈ r.components, c.name = a ∧ b ∈ c.cacheLinks) ∨ r.LeadsTo a b

theorem linkTarget_eq_error_iff {r : Registry} {owner : ComponentType} {p : Property} :
    (∃ e, r.linkTarget owner p = .error e) ↔ p.IllShaped := by
  simp only [linkTarget, map_eq_error_iff, propertyTarget_eq_error_iff]

theorem linkTarget_eq_ok_some_iff {r : Registry} {owner t : ComponentType} {p : Property} :
    r.linkTarget owner p = .ok (some t) ↔ p.LeadsTo t ∧ r.contains t = true := by
  have htargets : propertyTarget owner p = .ok (some t) ↔ p.LeadsTo t :=
    propertyTarget_eq_ok_some_iff
  rw [← htargets, linkTarget, map_eq_ok_iff]
  constructor
  · rintro ⟨target, htarget, hfilter⟩
    obtain ⟨rfl, hcontains⟩ := Option.filter_eq_some_iff.1 hfilter
    exact ⟨htarget, hcontains⟩
  · rintro ⟨htarget, hcontains⟩
    exact ⟨some t, htarget, Option.filter_eq_some_iff.2 ⟨rfl, hcontains⟩⟩

theorem mem_linkTargets_iff {r : Registry} {c : Component} {targets : List ComponentType}
    (h : r.linkTargets c = .ok targets) {t : ComponentType} :
    t ∈ targets ↔ (∃ p ∈ c.properties, p.LeadsTo t) ∧ r.contains t = true := by
  obtain ⟨found, hfound, rfl⟩ := map_eq_ok_iff.1 h
  rw [List.mem_filterMap]
  simp only [id, exists_eq_right, mem_iff_of_mapM_eq_ok hfound, linkTarget_eq_ok_some_iff]
  constructor
  · rintro ⟨p, hp, hleads, hcontains⟩
    exact ⟨⟨p, hp, hleads⟩, hcontains⟩
  · rintro ⟨⟨p, hp, hleads⟩, hcontains⟩
    exact ⟨p, hp, hleads, hcontains⟩

theorem exists_linkTargets_eq_ok_iff {r : Registry} {c : Component} :
    (∃ targets, r.linkTargets c = .ok targets) ↔ c.WellShaped := by
  rw [linkTargets, exists_map_eq_ok_iff, exists_mapM_eq_ok_iff]
  simp only [exists_eq_ok_iff, linkTarget_eq_error_iff, Component.WellShaped]

theorem mem_appendNew {links targets : List ComponentType} {t : ComponentType} :
    t ∈ appendNew links targets ↔ t ∈ links ∨ t ∈ targets := by
  unfold appendNew
  induction targets generalizing links with
  | nil => simp
  | cons target targets ih =>
    rw [List.foldl_cons, ih, List.mem_cons]
    split_ifs with hmem
    · constructor
      · exact Or.imp_right .inr
      · rintro (h | rfl | h)
        exacts [.inl h, .inl hmem, .inr h]
    · rw [List.mem_append, List.mem_singleton, or_assoc]

/-- The component is registered, and every collection of it has the type of one. -/
def WellShapedAt (r : Registry) (type : ComponentType) : Prop :=
  ∃ c ∈ r.components, c.name = type ∧ c.WellShaped

theorem exists_linksOf_eq_ok_iff {r : Registry} {type : ComponentType} :
    (∃ links, r.linksOf type = .ok links) ↔ r.WellShapedAt type := by
  simp only [linksOf, bind_eq_ok_iff, component_eq_ok_iff, find?_eq_some_iff]
  constructor
  · rintro ⟨_, c, ⟨hc, hname⟩, targets, htargets, -⟩
    exact ⟨c, hc, hname, exists_linkTargets_eq_ok_iff.1 ⟨targets, htargets⟩⟩
  · rintro ⟨c, hc, hname, hshape⟩
    obtain ⟨targets, htargets⟩ := exists_linkTargets_eq_ok_iff.2 hshape
    exact ⟨_, c, ⟨hc, hname⟩, targets, htargets, rfl⟩

theorem contains_iff_exists {r : Registry} {type : ComponentType} :
    r.contains type = true ↔ ∃ c ∈ r.components, c.name = type := by
  rw [contains_iff, List.mem_map]

theorem eq_of_mem_of_name_eq {r : Registry} {c d : Component} (hc : c ∈ r.components)
    (hd : d ∈ r.components) (hname : c.name = d.name) : c = d :=
  eq_of_mem_of_nodup_map r.nodup_names hc hd hname

theorem mem_linksOf_iff {r : Registry} {a b : ComponentType} {links : List ComponentType}
    (h : r.linksOf a = .ok links) : b ∈ links ↔ r.LinksTo a b := by
  simp only [linksOf, bind_eq_ok_iff, component_eq_ok_iff, find?_eq_some_iff] at h
  obtain ⟨c, ⟨hc, rfl⟩, targets, htargets, h⟩ := h
  cases h
  rw [mem_appendNew, mem_linkTargets_iff htargets]
  constructor
  · rintro (hcache | hleads)
    · exact .inl ⟨c, hc, rfl, hcache⟩
    · exact .inr ⟨c, hc, rfl, hleads⟩
  · rintro (⟨d, hd, hname, hcache⟩ | ⟨d, hd, hname, hleads⟩)
    · obtain rfl := eq_of_mem_of_name_eq hd hc hname
      exact .inl hcache
    · obtain rfl := eq_of_mem_of_name_eq hd hc hname
      exact .inr hleads

end Registry

end KeyedSql
