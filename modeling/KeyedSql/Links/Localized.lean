import KeyedSql.Links.Reachable

/-!
# Localized columns

`reachesLocalized` asks whether a component, or one that its properties lead to over any number
of steps, declares a localized column. Cache links do not count. The properties still to be looked
at form one list: the properties of a component that is met for the first time come before the rest
of the properties of the component that leads to it. The search stops at the first localized column,
and at the first collection property whose type is no collection.
-/

namespace KeyedSql.Registry

/-- A property of a component, yet to be looked at. -/
structure PendingProperty where
  owner : ComponentType
  property : Property

/-- The properties of a component, yet to be looked at. -/
def pendingOf (c : Component) : List PendingProperty :=
  c.properties.map (⟨c.name, ·⟩)

/-- The components other than the one of a type. -/
def othersThan (type : ComponentType) (cs : List Component) : List Component :=
  cs.filter (·.name ≠ type)

/-- How much there is to look at in components that have not been met. -/
def sizeOfUnmet : List Component → Nat
  | [] => 0
  | c :: unmet => c.properties.length + 1 + sizeOfUnmet unmet

theorem sizeOfUnmet_othersThan_le (type : ComponentType) (unmet : List Component) :
    sizeOfUnmet (othersThan type unmet) ≤ sizeOfUnmet unmet := by
  induction unmet with
  | nil => simp [othersThan, sizeOfUnmet]
  | cons d unmet ih =>
    by_cases hd : d.name = type
    · simp_all [othersThan, sizeOfUnmet]
      omega
    · simp_all [othersThan, sizeOfUnmet]

theorem sizeOfUnmet_othersThan_add_le {unmet : List Component} {c : Component} (h : c ∈ unmet) :
    sizeOfUnmet (othersThan c.name unmet) + c.properties.length + 1 ≤ sizeOfUnmet unmet := by
  induction unmet with
  | nil => simp at h
  | cons d unmet ih =>
    have hle := sizeOfUnmet_othersThan_le c.name unmet
    rcases List.mem_cons.1 h with rfl | h
    · simp_all [othersThan, sizeOfUnmet]
      omega
    · have := ih h
      by_cases hd : d.name = c.name
      · simp_all [othersThan, sizeOfUnmet]
        omega
      · simp_all [othersThan, sizeOfUnmet]
        omega

/-- Looks at the pending properties one by one; `unmet` holds the components whose properties have
not been pending yet. -/
def searchLocalized (r : Registry) (unmet : List Component) :
    List PendingProperty → Except ConfigError Bool
  | [] => .ok false
  | next :: pending =>
    if next.property.localizedColumn.isSome then .ok true
    else
      match r.linkTarget next.owner next.property with
      | .error e => .error e
      | .ok none => r.searchLocalized unmet pending
      | .ok (some target) =>
        match _hc : unmet.find? (·.name == target) with
        | none => r.searchLocalized unmet pending
        | some c => r.searchLocalized (othersThan c.name unmet) (pendingOf c ++ pending)
termination_by pending => sizeOfUnmet unmet + pending.length
decreasing_by
  · simp
  · simp
  · have := sizeOfUnmet_othersThan_add_le (List.mem_of_find?_eq_some _hc)
    simp only [List.length_append, pendingOf, List.length_map, List.length_cons]
    omega

/-- Whether a component or one that its properties lead to declares a localized column. -/
def reachesLocalized (r : Registry) (root : ComponentType) : Except ConfigError Bool := do
  let c ← r.component root
  r.searchLocalized (othersThan root r.components) (pendingOf c)

/-- The names of a component's properties with a localized column, each once and in order. -/
def localizedPropertyNames (r : Registry) (type : ComponentType) :
    Except ConfigError (List String) := do
  let c ← r.component type
  return (c.localizedProperties.map (·.name)).eraseDups.mergeSort fun a b => decide (a ≤ b)

end KeyedSql.Registry
