import KeyedSql.Generator.GeneratorClass

/-!
# The environment of compilation

Besides its key, a statement depends on the registered components, on which of them have a cache,
on the key generators that are registered by name and on the generator classes.

A generator may be registered by several names, and statements that ask for any of them share it. A
statement that was compiled before a name was given to another generator still draws from the one it
was compiled with.
-/

namespace KeyedSql

/-- All that statements are compiled against. -/
structure Environment extends Setting where
  classes : List GeneratorClass
  /-- A number beyond the serial numbers of all generators that were ever registered. -/
  issued : Nat
  serial_lt : ∀ named ∈ generators, named.serial < issued

namespace Environment

/-- The environment of a registry: no caches, no named generators, the classes always there. -/
def ofRegistry (registry : Registry) : Environment :=
  { registry, caches := [], generators := [], classes := GeneratorClass.builtins, issued := 0
    serial_lt := nofun }

/-- Gives a component a cache; a second one changes nothing. -/
def addCache (env : Environment) (c : ComponentType) : Environment :=
  if c ∈ env.caches then env else { env with caches := env.caches ++ [c] }

/-- The cache of a component, known by the component's name. -/
def cache? (env : Environment) (c : ComponentType) : Option ComponentType :=
  env.caches.find? (· == c)

/-- A generator that is registered by no name yet. -/
def newGenerator (env : Environment) (generator : KeyGenerator) : SharedGenerator :=
  ⟨generator, env.issued⟩

/-- What was handed out, as a generator that statements can share. -/
def share (env : Environment) : HeldGenerator → SharedGenerator
  | .new generator => env.newGenerator generator
  | .shared g => g

/-- Registers a generator in place of any other of its name; it may have other names, too. -/
def addGenerator (env : Environment) (id : String) (shared : SharedGenerator) : Environment :=
  { env with
    generators := { shared with id } :: env.generators.filter (·.id ≠ id)
    issued := max env.issued (shared.serial + 1)
    serial_lt := List.forall_mem_cons.2
      ⟨Nat.lt_of_lt_of_le (Nat.lt_succ_self _) (Nat.le_max_right ..), fun named hnamed =>
        Nat.lt_of_lt_of_le (env.serial_lt named (List.mem_filter.1 hnamed).1)
          (Nat.le_max_left ..)⟩ }

/-- The generator that is registered by a name. -/
def generator? (env : Environment) (id : String) : Option NamedGenerator :=
  env.generators.find? (·.id == id)

/-- Registers a generator class in place of any other of its name. -/
def addClass (env : Environment) (c : GeneratorClass) : Environment :=
  { env with classes := c.register env.classes }

/-- What a class sees when it is asked for a generator for a statement. -/
def site (env : Environment) (key : String) (component : ComponentType) (property : String) :
    GeneratorSite :=
  { env.toSetting with classes := env.classes.map (·.profile), key, component, property }

theorem cache?_eq_some_iff {env : Environment} {c d : ComponentType} :
    env.cache? c = some d ↔ c ∈ env.caches ∧ d = c := by
  simp only [cache?, List.find?_eq_some_iff_append]
  constructor
  · rintro ⟨hd, as, bs, hcaches, -⟩
    obtain rfl : d = c := by simpa using hd
    exact ⟨by simp [hcaches], rfl⟩
  · rintro ⟨hc, rfl⟩
    obtain ⟨as, bs, hcaches, hnot⟩ := List.eq_append_cons_of_mem hc
    refine ⟨by simp, as, bs, hcaches, fun a ha => ?_⟩
    have : a ≠ d := fun e => hnot (e ▸ ha)
    simpa using this

theorem mem_caches_addCache {env : Environment} {c d : ComponentType} :
    d ∈ (env.addCache c).caches ↔ d ∈ env.caches ∨ d = c := by
  unfold addCache
  split <;> simp_all

theorem generator?_addGenerator (env : Environment) (id : String) (shared : SharedGenerator)
    (name : String) : (env.addGenerator id shared).generator? name =
      if id = name then some { shared with id } else env.generator? name := by
  by_cases h : id = name
  · simp [generator?, addGenerator, h]
  · simp only [generator?, addGenerator, List.find?_cons, beq_eq_false_iff_ne.2 h, if_neg h,
      List.find?_filter]
    congr 1
    funext g
    by_cases hg : g.id = name <;> simp_all [Ne.symm]

end Environment

end KeyedSql
