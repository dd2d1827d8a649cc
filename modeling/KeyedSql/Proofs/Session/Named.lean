import KeyedSql.Proofs.Compile.Generators
import KeyedSql.Session

/-!
# Draws by name

The generators of an environment can be drawn from by their names, without any statement. Where no
two of them have one serial number, a draw moves on the generator of its name and no other; so the
keys of a name are consecutive, whatever other names are drawn from in between.
-/

namespace KeyedSql.Session

variable {s : Session} {id : String} {named : NamedGenerator}

/-- Draws a key from the generator of each name in turn, and keeps it with the name. A name without
a generator is passed over. -/
def drawNamed (s : Session) : List String → List (String × KeyValue)
  | [] => []
  | id :: ids =>
    match s.namedGenerator? id with
    | none => s.drawNamed ids
    | some g => (id, (s.draw g).1) :: (s.draw g).2.drawNamed ids

/-- The keys that were drawn by a name, in their order. -/
def keysOf (id : String) (drawn : List (String × KeyValue)) : List KeyValue :=
  (drawn.filter (·.1 = id)).map (·.2)

theorem keysOf_cons_self {key : KeyValue} {drawn : List (String × KeyValue)} :
    keysOf id ((id, key) :: drawn) = key :: keysOf id drawn := by
  simp [keysOf]

theorem keysOf_cons_of_ne {name : String} (h : name ≠ id) {key : KeyValue}
    {drawn : List (String × KeyValue)} : keysOf id ((name, key) :: drawn) = keysOf id drawn := by
  simp [keysOf, h]

theorem drawNamed_cons_of_none (h : s.namedGenerator? id = none) (ids : List String) :
    s.drawNamed (id :: ids) = s.drawNamed ids := by
  simp [drawNamed, h]

theorem drawNamed_cons_of_some {g : GeneratorInstance × KeyGenerator}
    (h : s.namedGenerator? id = some g) (ids : List String) :
    s.drawNamed (id :: ids) = (id, (s.draw g).1) :: (s.draw g).2.drawNamed ids := by
  simp [drawNamed, h]

theorem namedGenerator?_eq_some_iff {g : GeneratorInstance × KeyGenerator} :
    s.namedGenerator? id = some g ↔
      ∃ named, s.environment.generator? id = some named ∧
        (.shared named.toSharedGenerator, named.generator) = g := by
  unfold namedGenerator?
  rw [Option.map_eq_some_iff]

/-- The keys of a name go on where the draws before have left its generator. -/
theorem keysOf_drawNamed (henv : s.environment.DistinctSerials)
    (hnamed : s.environment.generator? id = some named) (asked : List String) :
    keysOf id (s.drawNamed asked) =
      (List.range' (s.draws.count (.shared named.toSharedGenerator)) (asked.count id)).map
        named.generator.key := by
  induction asked generalizing s with
  | nil => rfl
  | cons name names ih =>
    by_cases hname : name = id
    · subst hname
      have hown := namedGenerator?_eq_some_iff.2 ⟨named, hnamed, rfl⟩
      rw [drawNamed_cons_of_some hown, keysOf_cons_self, List.count_cons_self, List.range'_succ,
        List.map_cons, @ih (s.draw _).2 henv hnamed]
      simp only [draw, List.count_cons_self]
    · rw [List.count_cons_of_ne hname]
      cases hother : s.namedGenerator? name with
      | none => rw [drawNamed_cons_of_none hother, ih henv hnamed]
      | some g =>
        obtain ⟨other, hother', rfl⟩ := namedGenerator?_eq_some_iff.1 hother
        have hinstance : GeneratorInstance.shared other.toSharedGenerator ≠
            .shared named.toSharedGenerator := fun h =>
          hname (henv.id_eq hother' hnamed (congrArg (·.serial) (GeneratorInstance.shared.inj h)))
        rw [drawNamed_cons_of_some hother, keysOf_cons_of_ne hname, @ih (s.draw _).2 henv hnamed]
        simp only [draw, List.count_cons_of_ne hinstance]

theorem keysOf_drawNamed_start {env : Environment} (henv : env.DistinctSerials)
    (hnamed : env.generator? id = some named) (factories : List StatementFactory)
    (asked : List String) :
    keysOf id ((start env factories).drawNamed asked) =
      (List.range (asked.count id)).map named.generator.key := by
  rw [@keysOf_drawNamed (start env factories) id named henv hnamed, List.range_eq_range']
  rfl

end KeyedSql.Session
