import KeyedSql.Schema.Component

/-!
# The registry of components

A registry holds at most one component of each type, in the order of registration. That order shows
nowhere: types are listed by name, and components are looked up by type.

A path is walked from a component through single-valued associations to the component that owns its
last segment. `Registry.walk` goes through the leading segments; where it cannot go on, the error
names the segment at which it stopped, the whole path and the component where it began.
-/

namespace KeyedSql

/-- Registered components, no two of one type. -/
structure Registry where
  components : List Component
  nodup_names : (components.map (·.name)).Nodup

namespace Registry

/-- The registry without components. -/
def empty : Registry :=
  ⟨[], List.nodup_nil⟩

/-- The component of a type. -/
def find? (r : Registry) (type : ComponentType) : Option Component :=
  r.components.find? (·.name == type)

/-- Whether a component of the type is registered. -/
def contains (r : Registry) (type : ComponentType) : Bool :=
  (r.find? type).isSome

/-- The component of a type, which must be registered. -/
def component (r : Registry) (type : ComponentType) : Except ConfigError Component :=
  match r.find? type with
  | some c => .ok c
  | none => .error (.unknownComponent type)

theorem eq_of_mem_of_nodup_map {α β : Type} {f : α → β} {xs : List α} (h : (xs.map f).Nodup)
    {x y : α} (hx : x ∈ xs) (hy : y ∈ xs) (hf : f x = f y) : x = y := by
  induction xs with
  | nil => simp at hx
  | cons z zs ih =>
    simp only [List.map_cons, List.nodup_cons] at h
    rcases List.mem_cons.1 hx with rfl | hx' <;> rcases List.mem_cons.1 hy with rfl | hy'
    · rfl
    · exact absurd (List.mem_map.2 ⟨y, hy', hf.symm⟩) h.1
    · exact absurd (List.mem_map.2 ⟨x, hx', hf⟩) h.1
    · exact ih h.2 hx' hy'

theorem find?_eq_none_iff {r : Registry} {type : ComponentType} :
    r.find? type = none ↔ type ∉ r.components.map (·.name) := by
  simp [find?]

/-- Adds a component, unless one of its type is registered. -/
def register (r : Registry) (c : Component) : Except ConfigError Registry :=
  match h : r.find? c.name with
  | some _ => .error (.duplicateComponent c.name)
  | none =>
    .ok {
      components := r.components ++ [c]
      nodup_names := by
        have hnot := find?_eq_none_iff.1 h
        rw [List.map_append, List.nodup_append]
        refine ⟨r.nodup_names, by simp, ?_⟩
        rintro a ha b hb rfl
        simp only [List.map_cons, List.map_nil, List.mem_singleton] at hb
        exact hnot (hb ▸ ha) }

/-- Adds components one after the other. -/
def registerAll (r : Registry) (cs : List Component) : Except ConfigError Registry :=
  cs.foldlM register r

/-- The registered types, ordered by name. -/
def types (r : Registry) : List ComponentType :=
  ComponentType.sort (r.components.map (·.name))

/-- The number of components. -/
def size (r : Registry) : Nat :=
  r.components.length

/-- Whether no component is registered. -/
def isEmpty (r : Registry) : Bool :=
  r.components.isEmpty

theorem name_eq_of_find? {r : Registry} {type : ComponentType} {c : Component}
    (h : r.find? type = some c) : c.name = type := by
  simpa using List.find?_some h

theorem mem_of_find? {r : Registry} {type : ComponentType} {c : Component}
    (h : r.find? type = some c) : c ∈ r.components :=
  List.mem_of_find?_eq_some h

theorem find?_eq_some_iff {r : Registry} {type : ComponentType} {c : Component} :
    r.find? type = some c ↔ c ∈ r.components ∧ c.name = type := by
  refine ⟨fun h => ⟨mem_of_find? h, name_eq_of_find? h⟩, fun ⟨hc, htype⟩ => ?_⟩
  cases h : r.find? type with
  | none => exact absurd (List.mem_map.2 ⟨c, hc, htype⟩) (find?_eq_none_iff.1 h)
  | some d =>
    have hname : d.name = c.name := (name_eq_of_find? h).trans htype.symm
    exact congrArg some (eq_of_mem_of_nodup_map r.nodup_names (mem_of_find? h) hc hname)

theorem register_eq_ok_iff {r s : Registry} {c : Component} :
    r.register c = .ok s ↔ r.find? c.name = none ∧ s.components = r.components ++ [c] := by
  unfold register
  split
  · rename_i d hd
    simp [hd]
  · rename_i hnone
    cases s
    simp [hnone, eq_comm]

theorem find?_of_register {r s : Registry} {c : Component} (h : r.register c = .ok s)
    (type : ComponentType) :
    s.find? type = (r.find? type).or (if c.name = type then some c else none) := by
  rw [find?, (register_eq_ok_iff.1 h).2, List.find?_append]
  by_cases hc : c.name = type <;> simp [find?, hc]

theorem component_eq_ok_iff {r : Registry} {type : ComponentType} {c : Component} :
    r.component type = .ok c ↔ r.find? type = some c := by
  unfold component
  split <;> simp_all

theorem contains_iff {r : Registry} {type : ComponentType} :
    r.contains type = true ↔ type ∈ r.components.map (·.name) := by
  have := @find?_eq_none_iff r type
  cases h : r.find? type <;> simp_all [contains]

theorem mem_types {r : Registry} {type : ComponentType} :
    type ∈ r.types ↔ type ∈ r.components.map (·.name) :=
  ComponentType.mem_sort

end Registry

/-! ## Resolving property paths -/

/-- A property together with the component that declares it. -/
structure OwnedProperty where
  owner : Component
  property : Property
  deriving DecidableEq

namespace Registry

/-- The component that a single-valued association leads to, if it is registered. -/
def associated? (r : Registry) (p : Property) : Option Component :=
  if p.collection.isSome then none else p.associationTarget?.bind r.find?

/-- Goes through associations one after the other; `refused` is the error for a segment that is no
single-valued association. -/
def walk (r : Registry) (refused : Identifier → ConfigError) (owner : Component) :
    List Identifier → Except ConfigError Component
  | [] => .ok owner
  | segment :: segments => do
    let p ← owner.property segment.text
    match r.associated? p with
    | some next => r.walk refused next segments
    | none => .error (refused segment)

/-- The property at the end of a path, and its owner. -/
def propertyAt (r : Registry) (type : ComponentType) (path : PropertyPath) :
    Except ConfigError OwnedProperty := do
  let start ← r.component type
  let owner ← r.walk (.notAnAssociation type path) start path.leading
  let property ← owner.property path.last.text
  return { owner, property }

end Registry

end KeyedSql
