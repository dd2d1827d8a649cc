import KeyedSql.Schema.Registry

/-!
# Links

A component is linked to its declared cache links, and to the registered components that its
properties lead to: the target of an association, else the component of a collection's elements.
Cache links count as they are declared, registered or not.

`reachable` collects what can be reached from a component over any number of links. It keeps a
stack of components whose links are still to be followed, and the types that have not been reached;
following a link to such a type takes it off that list, so the walk ends on every graph, cycles
included. The component where the walk begins is never part of its own closure. Every type that is
reached is followed in its turn, so an unregistered one is an error.
-/

namespace KeyedSql.Registry

/-! ## Direct links -/

/-- The component that a property leads to: the target of an association, else the component of a
collection's elements. -/
def propertyTarget (owner : ComponentType) (p : Property) :
    Except ConfigError (Option ComponentType) :=
  if p.association.isSome then .ok p.associationTarget?
  else (p.elementType owner).map fun element => element.bind (·.component?)

/-- The registered component that a property leads to. -/
def linkTarget (r : Registry) (owner : ComponentType) (p : Property) :
    Except ConfigError (Option ComponentType) :=
  (propertyTarget owner p).map fun target => target.filter r.contains

/-- The registered components that the properties of a component lead to, in their order. -/
def linkTargets (r : Registry) (c : Component) : Except ConfigError (List ComponentType) :=
  (c.properties.mapM (r.linkTarget c.name)).map fun targets => targets.filterMap id

/-- Appends the types that a list does not hold yet. -/
def appendNew (links : List ComponentType) (targets : List ComponentType) : List ComponentType :=
  targets.foldl (fun links target => if target ∈ links then links else links ++ [target]) links

/-- The components linked to a registered one in a single step: its cache links, then the targets
of its properties that are not among them. -/
def linksOf (r : Registry) (type : ComponentType) : Except ConfigError (List ComponentType) := do
  let c ← r.component type
  return appendNew c.cacheLinks (← r.linkTargets c)

/-! ## The link closure -/

/-- Every type that a link can lead to: the registered ones and all cache links. -/
def linkable (r : Registry) : List ComponentType :=
  r.components.flatMap fun c => c.name :: c.cacheLinks

/-- The links that lead to types not reached before, in their order, and what is unreached after
them. -/
def reachNew (unreached : List ComponentType) :
    List ComponentType → List ComponentType × List ComponentType
  | [] => ([], unreached)
  | link :: links =>
    if link ∈ unreached then
      let rest := reachNew (unreached.filter (· ≠ link)) links
      (link :: rest.1, rest.2)
    else reachNew unreached links

theorem length_reachNew_le (unreached links : List ComponentType) :
    (reachNew unreached links).1.length + (reachNew unreached links).2.length ≤
      unreached.length := by
  induction links generalizing unreached with
  | nil => simp [reachNew]
  | cons link links ih =>
    unfold reachNew
    split
    · rename_i hmem
      have hlt : (unreached.filter (· ≠ link)).length < unreached.length :=
        List.length_filter_lt_length_iff_exists.2 ⟨link, hmem, by simp⟩
      have := ih (unreached.filter (· ≠ link))
      simp only [List.length_cons]
      omega
    · exact ih unreached

/-- Follows the links of the components on a stack until none is left; `reached` collects the types
in the order in which they are found. -/
def followLinks (r : Registry) (unreached reached : List ComponentType) :
    List ComponentType → Except ConfigError (List ComponentType)
  | [] => .ok reached
  | current :: stack =>
    match r.linksOf current with
    | .error e => .error e
    | .ok links =>
      let next := reachNew unreached links
      r.followLinks next.2 (reached ++ next.1) (next.1.reverse ++ stack)
termination_by stack => unreached.length + stack.length
decreasing_by
  have := length_reachNew_le unreached links
  simp only [List.length_append, List.length_reverse, List.length_cons]
  omega

/-- The types that can be reached from a root over one or more links, other than the root itself,
ordered by name. -/
def reachable (r : Registry) (root : ComponentType) : Except ConfigError (List ComponentType) :=
  (r.followLinks (r.linkable.filter (· ≠ root)) [] [root]).map ComponentType.sort

end KeyedSql.Registry
