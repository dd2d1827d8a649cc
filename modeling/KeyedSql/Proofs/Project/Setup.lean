import KeyedSql.Project.Basic
import KeyedSql.Proofs.Compile.CacheOrder
import KeyedSql.Proofs.Compile.Registration
import KeyedSql.Proofs.Session.Named

/-!
# The environment of a config

An environment is set up in two loops, the first over the components that are selected for a cache
and the second over the named generators. Each stops at the first thing that is not there. What both
lead to does not depend on the order in which the components were selected, and no generator depends
on the caches; so the wildcard can be replaced by a list of all components.
-/

namespace KeyedSql

open Outcome

/-- The components that are selected over a registry. -/
def CachedComponents.components (r : Registry) : CachedComponents → List ComponentType
  | all => r.types
  | only components => components

/-- A class of the name is always there, and it needs no statement to build a generator. -/
def GeneratorClass.BuildsPlain (name : String) : Prop :=
  ∃ c ∈ builtins, c.name = name ∧ c.plain.isSome = true

namespace Config

/-- All that a config names is there: components that are selected one by one are registered, and
every generator has a class that can build it. -/
structure IsMetBy (config : Config) (r : Registry) : Prop where
  registered : ∀ cs, config.caches = .only cs → ∀ c ∈ cs, r.contains c = true
  buildable : ∀ g ∈ config.keyGenerators, GeneratorClass.BuildsPlain g.2

/-- What a config can be refused for. -/
inductive Fault (config : Config) (r : Registry) : ConfigError → Prop where
  | unregistered {cs : List ComponentType} {c : ComponentType} (hcaches : config.caches = .only cs)
      (hc : c ∈ cs) (hnew : r.contains c = false) : Fault config r (.unknownCacheComponent c)
  | unknownClass {g : String × String} (hg : g ∈ config.keyGenerators)
      (hclass : ∀ c ∈ GeneratorClass.builtins, c.name ≠ g.2) :
      Fault config r (.unknownGeneratorClass g.2)
  | needsStatement {g : String × String} (hg : g ∈ config.keyGenerators) {c : GeneratorClass}
      (hc : c ∈ GeneratorClass.builtins) (hname : c.name = g.2) (hplain : c.plain = none) :
      Fault config r (.noDefaultConstructor g.2)

end Config

/-! ## Classes that are always there -/

namespace GeneratorClass

variable {name : String} {g : HeldGenerator}

theorem find?_builtins_eq_some_iff {c : GeneratorClass} :
    find? builtins name = some c ↔ c ∈ builtins ∧ c.name = name := by
  constructor
  · intro h
    exact ⟨List.mem_of_find?_eq_some h, by simpa using List.find?_some h⟩
  · rintro ⟨hc, rfl⟩
    rcases List.mem_pair.1 hc with rfl | rfl <;> rfl

theorem eq_counter_of_plain {c : GeneratorClass} (hc : c ∈ builtins) (hplain : c.plain = some g) :
    .new (.counter 1) = g := by
  rcases List.mem_pair.1 hc with rfl | rfl
  · exact Option.some.inj hplain
  · cases hplain

theorem buildPlain_builtins_eq_ok_iff :
    buildPlain builtins name = .ok g ↔ BuildsPlain name ∧ .new (.counter 1) = g := by
  unfold buildPlain
  constructor
  · intro h
    cases hfind : find? builtins name with
    | none => simp [hfind] at h
    | some c =>
      obtain ⟨hc, hname⟩ := find?_builtins_eq_some_iff.1 hfind
      cases hplain : c.plain with
      | none => simp [hfind, hplain] at h
      | some g' =>
        simp only [hfind, hplain, Except.ok.injEq] at h
        refine ⟨⟨c, hc, hname, by rw [hplain]; rfl⟩, h ▸ eq_counter_of_plain hc hplain⟩
  · rintro ⟨⟨c, hc, hname, hsome⟩, rfl⟩
    obtain ⟨g, hplain⟩ := Option.isSome_iff_exists.1 hsome
    simp only [find?_builtins_eq_some_iff.2 ⟨hc, hname⟩, hplain, eq_counter_of_plain hc hplain]

theorem buildPlain_builtins_eq_error {e : ConfigError} (h : buildPlain builtins name = .error e) :
    (∀ c ∈ builtins, c.name ≠ name) ∧ e = .unknownGeneratorClass name ∨
      ∃ c ∈ builtins, c.name = name ∧ c.plain = none ∧ e = .noDefaultConstructor name := by
  unfold buildPlain at h
  cases hfind : find? builtins name with
  | none =>
    simp only [hfind, Except.error.injEq] at h
    refine .inl ⟨fun c hc hname => ?_, h.symm⟩
    cases hfind.symm.trans (find?_builtins_eq_some_iff.2 ⟨hc, hname⟩)
  | some c =>
    obtain ⟨hc, hname⟩ := find?_builtins_eq_some_iff.1 hfind
    cases hplain : c.plain with
    | none =>
      simp only [hfind, hplain, Except.error.injEq] at h
      exact .inr ⟨c, hc, hname, hplain, h.symm⟩
    | some g => simp [hfind, hplain] at h

end GeneratorClass

namespace Environment

variable {env env' : Environment} {r : Registry} {config : Config} {e : ConfigError}

/-! ## Selected caches -/

/-- Gives a component that is selected by name a cache. -/
def addSelectedCache (env : Environment) (c : ComponentType) : Except ConfigError Environment :=
  if env.registry.contains c then .ok (env.addCache c) else .error (.unknownCacheComponent c)

theorem addSelectedCaches_all :
    env.addSelectedCaches .all = .ok (env.addCaches env.registry.types) :=
  rfl

theorem addSelectedCaches_only {cs : List ComponentType} :
    env.addSelectedCaches (.only cs) = cs.foldlM addSelectedCache env :=
  rfl

theorem registry_addCache (env : Environment) (c : ComponentType) :
    (env.addCache c).registry = env.registry :=
  registry_addCaches env [c]

theorem classes_addCaches (env : Environment) (cs : List ComponentType) :
    (env.addCaches cs).classes = env.classes := by
  rw [addCaches_eq_withCaches]
  rfl

theorem addSelectedCache_eq_ok_iff {c : ComponentType} : env.addSelectedCache c = .ok env' ↔
    env.registry.contains c = true ∧ env.addCache c = env' := by
  unfold addSelectedCache
  split_ifs with hc <;> simp [hc]

theorem addSelectedCache_eq_error_iff {c : ComponentType} : env.addSelectedCache c = .error e ↔
    env.registry.contains c = false ∧ .unknownCacheComponent c = e := by
  unfold addSelectedCache
  split_ifs with hc <;> simp [hc]

theorem addSelectedCaches_eq_ok_iff {caches : CachedComponents} :
    env.addSelectedCaches caches = .ok env' ↔
      (∀ cs, caches = .only cs → ∀ c ∈ cs, env.registry.contains c = true) ∧
        env.addCaches (caches.components env.registry) = env' := by
  cases caches with
  | all =>
    rw [addSelectedCaches_all, Except.ok.injEq, and_iff_right nofun, CachedComponents.components]
  | only cs =>
    have hloop : cs.foldlM addSelectedCache env = .ok env' ↔
        (∀ c ∈ cs, env.registry.contains c = true) ∧ cs.foldl addCache env = env' :=
      foldlM_eq_ok_iff (fun s (hs : s.registry = env.registry) c s' =>
        hs ▸ addSelectedCache_eq_ok_iff) (fun s hs c => (registry_addCache s c).trans hs) rfl
    rw [addSelectedCaches_only, hloop]
    simp [CachedComponents.components, addCaches]

theorem addSelectedCaches_eq_error {caches : CachedComponents}
    (h : env.addSelectedCaches caches = .error e) :
    ∃ cs, caches = .only cs ∧ ∃ c ∈ cs, env.registry.contains c = false ∧
      .unknownCacheComponent c = e := by
  cases caches with
  | all => cases h
  | only cs =>
    rw [addSelectedCaches_only] at h
    obtain ⟨before, c, after, s, rfl, hbefore, hfails⟩ := foldlM_eq_error_iff.1 h
    obtain ⟨-, rfl⟩ := addSelectedCaches_eq_ok_iff.1 (addSelectedCaches_only.trans hbefore)
    rw [addSelectedCache_eq_error_iff, registry_addCaches] at hfails
    exact ⟨_, rfl, c, by simp, hfails⟩

/-! ## Named counters -/

/-- Registers a new counter by a name. -/
def addCounter (env : Environment) (id : String) : Environment :=
  env.addGenerator id (env.newGenerator (.counter 1))

/-- Registers a new counter by each name, one after the other. -/
def addCounters (env : Environment) (generators : List (String × String)) : Environment :=
  generators.foldl (fun env g => env.addCounter g.1) env

theorem generator?_addCounter (env : Environment) (id name : String) :
    (env.addCounter id).generator? name =
      if id = name then some { env.newGenerator (.counter 1) with id } else env.generator? name :=
  generator?_addGenerator ..

theorem addCounters_cons (env : Environment) (g : String × String)
    (generators : List (String × String)) :
    env.addCounters (g :: generators) = (env.addCounter g.1).addCounters generators :=
  rfl

/-- Generators are all that is added. -/
theorem frame_addCounters (env : Environment) (generators : List (String × String)) :
    (env.addCounters generators).registry = env.registry ∧
      (env.addCounters generators).classes = env.classes ∧
        (env.addCounters generators).caches = env.caches := by
  induction generators generalizing env with
  | nil => exact ⟨rfl, rfl, rfl⟩
  | cons g generators ih =>
    rw [addCounters_cons]
    exact ih (env.addCounter g.1)

/-- Registers what the classes of some names build, one after the other. -/
def addConfiguredGenerators (env : Environment) (generators : List (String × String)) :
    Except ConfigError Environment :=
  generators.foldlM (fun env g => env.addConfiguredGenerator g.1 g.2) env

theorem addConfiguredGenerator_eq_ok_iff {id name : String}
    (hclasses : env.classes = GeneratorClass.builtins) :
    env.addConfiguredGenerator id name = .ok env' ↔
      GeneratorClass.BuildsPlain name ∧ env.addCounter id = env' := by
  unfold addConfiguredGenerator
  rw [hclasses, bind_eq_ok_iff]
  simp only [GeneratorClass.buildPlain_builtins_eq_ok_iff, pure_eq_ok_iff]
  constructor
  · rintro ⟨g, ⟨hclass, rfl⟩, rfl⟩
    exact ⟨hclass, rfl⟩
  · rintro ⟨hclass, rfl⟩
    exact ⟨_, ⟨hclass, rfl⟩, rfl⟩

theorem addConfiguredGenerators_eq_ok_iff {generators : List (String × String)}
    (hclasses : env.classes = GeneratorClass.builtins) :
    env.addConfiguredGenerators generators = .ok env' ↔
      (∀ g ∈ generators, GeneratorClass.BuildsPlain g.2) ∧ env.addCounters generators = env' := by
  have hstep : ∀ s : Environment, s.classes = GeneratorClass.builtins →
      ∀ (g : String × String) s', s.addConfiguredGenerator g.1 g.2 = .ok s' ↔
        GeneratorClass.BuildsPlain g.2 ∧ s.addCounter g.1 = s' :=
    fun s hs g s' => addConfiguredGenerator_eq_ok_iff hs
  exact foldlM_eq_ok_iff hstep (fun s hs g => hs) hclasses

theorem addConfiguredGenerators_eq_error {generators : List (String × String)}
    (hclasses : env.classes = GeneratorClass.builtins)
    (h : env.addConfiguredGenerators generators = .error e) :
    ∃ g ∈ generators, GeneratorClass.buildPlain GeneratorClass.builtins g.2 = .error e := by
  obtain ⟨before, g, after, s, rfl, hbefore, hfails⟩ := foldlM_eq_error_iff.1 h
  obtain ⟨-, rfl⟩ := (addConfiguredGenerators_eq_ok_iff hclasses).1 hbefore
  rcases bind_eq_error_iff.1 hfails with hfails | ⟨_, -, hreturn⟩
  · obtain ⟨-, hkept, -⟩ := frame_addCounters env before
    rw [hkept, hclasses] at hfails
    exact ⟨g, by simp, hfails⟩
  · cases hreturn

/-- The caches have no say in which generators there are. -/
theorem addConfiguredGenerators_withCaches (cs : List ComponentType)
    (generators : List (String × String)) :
    (env.withCaches cs).addConfiguredGenerators generators =
      (env.addConfiguredGenerators generators).map (·.withCaches cs) := by
  unfold addConfiguredGenerators
  refine foldlM_image (h := fun s : Environment => s.withCaches cs) fun s g => ?_
  unfold addConfiguredGenerator
  show (GeneratorClass.buildPlain s.classes g.2 >>= _) = _
  cases GeneratorClass.buildPlain s.classes g.2 <;> rfl

section Counters

variable {generators : List (String × String)} {id : String}

theorem exists_generator?_addCounters_iff :
    (∃ named, (env.addCounters generators).generator? id = some named) ↔
      id ∈ generators.map (·.1) ∨ ∃ named, env.generator? id = some named := by
  induction generators generalizing env with
  | nil => simp [addCounters]
  | cons g generators ih =>
    rw [addCounters_cons, ih, generator?_addCounter, List.map_cons, List.mem_cons]
    by_cases hid : g.1 = id
    · simp [hid]
    · rw [if_neg hid, or_iff_right (Ne.symm hid)]

theorem generator?_addCounters {named : NamedGenerator}
    (h : (env.addCounters generators).generator? id = some named) :
    named.generator = .counter 1 ∨ env.generator? id = some named := by
  induction generators generalizing env with
  | nil => exact .inr h
  | cons g generators ih =>
    rw [addCounters_cons] at h
    rcases ih h with hcounter | hkept
    · exact .inl hcounter
    · rw [generator?_addCounter] at hkept
      split_ifs at hkept
      · cases hkept
        exact .inl rfl
      · exact .inr hkept

theorem DistinctSerials.addCounters (h : env.DistinctSerials)
    (generators : List (String × String)) : (env.addCounters generators).DistinctSerials := by
  induction generators generalizing env with
  | nil => exact h
  | cons g generators ih => exact ih (h.addGenerator g.1 (.counter 1))

end Counters

/-! ## Set-up environments -/

/-- The environment is what a config describes over a registry: these caches and these generators,
each of which numbers from one on its own. -/
structure IsSetUpBy (env : Environment) (r : Registry) (config : Config) : Prop where
  registry_eq : env.registry = r
  classes_eq : env.classes = GeneratorClass.builtins
  nodup_caches : env.caches.Nodup
  cache?_eq_some_iff : ∀ c d, env.cache? c = some d ↔ c ∈ config.caches.components r ∧ d = c
  exists_generator?_iff : ∀ id,
    (∃ named, env.generator? id = some named) ↔ id ∈ config.keyGenerators.map (·.1)
  generator_eq : ∀ id named, env.generator? id = some named →
    named.id = id ∧ named.generator = .counter 1
  id_eq_of_serial_eq : ∀ id id' named named', env.generator? id = some named →
    env.generator? id' = some named' → named.serial = named'.serial → id = id'
  keysOf_eq : ∀ id ∈ config.keyGenerators.map (·.1), ∀ asked,
    Session.keysOf id ((Session.start env StatementFactory.defaults).drawNamed asked) =
      (List.range (asked.count id)).map fun k => .int (1 + Int64.ofNat k)

/-- The environment that a config describes over a registry. -/
def described (r : Registry) (config : Config) : Environment :=
  ((ofRegistry r).addCaches (config.caches.components r)).addCounters config.keyGenerators

theorem frame_described (r : Registry) (config : Config) :
    (described r config).registry = r ∧
      (described r config).classes = GeneratorClass.builtins ∧
        (described r config).caches =
          ((ofRegistry r).addCaches (config.caches.components r)).caches := by
  obtain ⟨hregistry, hclasses, hcaches⟩ := frame_addCounters
    ((ofRegistry r).addCaches (config.caches.components r)) config.keyGenerators
  exact ⟨hregistry.trans (registry_addCaches ..), hclasses.trans (classes_addCaches ..), hcaches⟩

theorem distinctSerials_described (r : Registry) (config : Config) :
    (described r config).DistinctSerials := by
  refine DistinctSerials.addCounters ?_ _
  rw [addCaches_eq_withCaches]
  exact List.nodup_nil

theorem generator?_ofRegistry_addCaches (r : Registry) (cs : List ComponentType) (id : String) :
    ((ofRegistry r).addCaches cs).generator? id = none := by
  rw [addCaches_eq_withCaches]
  rfl

theorem exists_generator?_described_iff {id : String} :
    (∃ named, (described r config).generator? id = some named) ↔
      id ∈ config.keyGenerators.map (·.1) := by
  rw [described, exists_generator?_addCounters_iff, generator?_ofRegistry_addCaches]
  simp

theorem generator_of_described {id : String} {named : NamedGenerator}
    (h : (described r config).generator? id = some named) : named.generator = .counter 1 := by
  rcases generator?_addCounters h with hcounter | hold
  · exact hcounter
  · cases (generator?_ofRegistry_addCaches ..).symm.trans hold

theorem isSetUpBy_described : (described r config).IsSetUpBy r config := by
  obtain ⟨hregistry, hclasses, hcaches⟩ := frame_described r config
  have hserials := distinctSerials_described r config
  refine {
    registry_eq := hregistry
    classes_eq := hclasses
    nodup_caches := ?_
    cache?_eq_some_iff := fun c d => ?_
    exists_generator?_iff := fun id => exists_generator?_described_iff
    generator_eq := fun id named hnamed => ⟨id_of_generator? hnamed, generator_of_described hnamed⟩
    id_eq_of_serial_eq := fun id id' named named' => hserials.id_eq
    keysOf_eq := fun id hid asked => ?_ }
  · rw [hcaches]
    exact nodup_caches_addCaches List.nodup_nil
  · rw [cache?_eq_some_iff, hcaches, mem_caches_addCaches]
    simp [ofRegistry]
  · obtain ⟨named, hnamed⟩ := exists_generator?_described_iff.2 hid
    rw [Session.keysOf_drawNamed_start hserials hnamed, generator_of_described hnamed]
    rfl

/-! ## Configs -/

theorem ofConfig_eq_ok_iff :
    ofConfig r config = .ok env ↔ config.IsMetBy r ∧ described r config = env := by
  show (_ >>= fun env : Environment => env.addConfiguredGenerators config.keyGenerators) = _ ↔ _
  rw [bind_eq_ok_iff]
  simp only [addSelectedCaches_eq_ok_iff]
  constructor
  · rintro ⟨_, ⟨hregistered, rfl⟩, h⟩
    obtain ⟨hbuildable, rfl⟩ := (addConfiguredGenerators_eq_ok_iff (classes_addCaches ..)).1 h
    exact ⟨⟨hregistered, hbuildable⟩, rfl⟩
  · rintro ⟨⟨hregistered, hbuildable⟩, rfl⟩
    exact ⟨_, ⟨hregistered, rfl⟩,
      (addConfiguredGenerators_eq_ok_iff (classes_addCaches ..)).2 ⟨hbuildable, rfl⟩⟩

theorem fault_of_ofConfig_eq_error (h : ofConfig r config = .error e) : config.Fault r e := by
  rcases bind_eq_error_iff.1 h with hcaches | ⟨env, henv, hgenerators⟩
  · obtain ⟨cs, hcs, c, hc, hnew, rfl⟩ := addSelectedCaches_eq_error hcaches
    exact .unregistered hcs hc hnew
  · obtain ⟨-, rfl⟩ := addSelectedCaches_eq_ok_iff.1 henv
    obtain ⟨g, hg, hfails⟩ := addConfiguredGenerators_eq_error (classes_addCaches ..) hgenerators
    rcases GeneratorClass.buildPlain_builtins_eq_error hfails with
      ⟨hunknown, rfl⟩ | ⟨c, hc, hname, hplain, rfl⟩
    · exact .unknownClass hg hunknown
    · exact .needsStatement hg hc hname hplain

/-- What the generators lead to is the same under all selections whose components are there. -/
theorem ofConfig_eq_map
    (hregistered : ∀ cs, config.caches = .only cs → ∀ c ∈ cs, r.contains c = true) :
    ofConfig r config = ((ofRegistry r).addConfiguredGenerators config.keyGenerators).map
      (·.withCaches ((ofRegistry r).addCaches (config.caches.components r)).caches) := by
  have hcaches : (ofRegistry r).addSelectedCaches config.caches =
      .ok ((ofRegistry r).addCaches (config.caches.components r)) :=
    addSelectedCaches_eq_ok_iff.2 ⟨hregistered, rfl⟩
  show (_ >>= fun env : Environment => env.addConfiguredGenerators config.keyGenerators) = _
  rw [hcaches, addCaches_eq_withCaches]
  exact addConfiguredGenerators_withCaches ..

/-- The wildcard can be replaced by any list of the registered components. -/
theorem ofConfig_only_of_all {cs : List ComponentType} (hall : config.caches = .all)
    (hcs : ∀ c, c ∈ cs ↔ c ∈ r.types) :
    (∀ e, ofConfig r { config with caches := .only cs } = .error e ↔ ofConfig r config = .error e) ∧
      ∀ env, ofConfig r config = .ok env →
        ∃ env', ofConfig r { config with caches := .only cs } = .ok env' ∧ env.ActsSame env' := by
  have hwildcard := @ofConfig_eq_map r config (hall ▸ nofun)
  have hlisted := @ofConfig_eq_map r { config with caches := .only cs } fun _ h c hc =>
    Registry.mem_types_iff_contains.1 ((hcs c).1 (CachedComponents.only.inj h ▸ hc))
  rw [hwildcard, hlisted]
  cases hbase : (ofRegistry r).addConfiguredGenerators config.keyGenerators with
  | error e => exact ⟨fun _ => Iff.rfl, nofun⟩
  | ok base =>
    have hclasses : base.classes = GeneratorClass.builtins := by
      obtain ⟨-, rfl⟩ := (addConfiguredGenerators_eq_ok_iff rfl).1 hbase
      exact (frame_addCounters ..).2.1
    have hignore : ∀ c ∈ base.classes, c.IgnoresCaches := fun c hc =>
      GeneratorClass.ignoresCaches_of_mem_builtins (hclasses ▸ hc)
    refine ⟨fun e => ⟨nofun, nofun⟩, ?_⟩
    rintro _ ⟨⟩
    refine ⟨_, rfl, @actsSame_withCaches (base.withCaches _) _ hignore ?_⟩
    rw [hall]
    exact perm_caches_addCaches List.nodup_nil hcs

/-! ## Projects -/

section Project

variable {files : Files} {directory schema : String}

/-- A project with a readable schema has the environment of its config, and changes no file. -/
theorem ofProject_eq (hread : files.read (FilePath.join directory config.schema) = .ok schema)
    (hschema : Registry.ofText schema = .ok r) :
    (ofProject Files.access config directory).run files =
      ((ofConfig r config).mapError .configuration, files) := by
  have hresult : ofSchemaText config schema = (ofConfig r config).mapError .configuration := by
    unfold ofSchemaText
    rw [hschema]
    exact liftM_configuration _
  have hrun : (Files.access.read (FilePath.join directory config.schema)).run files =
      pure (.ok schema, files) := by
    rw [← hread]
    rfl
  unfold ofProject
  rw [StateT.run_bind, hrun, pure_bind, ← hresult]
  rfl

/-- A config is refused exactly for what is not there, and otherwise set up; the wildcard stands for
all components. -/
theorem ofProject_exact (hread : files.read (FilePath.join directory config.schema) = .ok schema)
    (hschema : Registry.ofText schema = .ok r) :
    ∃ result, (ofProject Files.access config directory).run files = (result, files) ∧
      ((∃ env, result = .ok env) ↔ config.IsMetBy r) ∧
      (∀ e, result = .error e → ∃ cause, e = .configuration cause ∧ config.Fault r cause) ∧
      (∀ env, result = .ok env → env.IsSetUpBy r config) ∧
      (config.caches = .all → ∀ cs, (∀ c, c ∈ cs ↔ c ∈ r.types) →
        ∃ listed,
          (ofProject Files.access { config with caches := .only cs } directory).run files =
            (listed, files) ∧
          (∀ e, listed = .error e ↔ result = .error e) ∧
          ∀ env, result = .ok env → ∃ env', listed = .ok env' ∧ env.ActsSame env') := by
  refine ⟨_, ofProject_eq hread hschema, ?_, fun e he => ?_, fun env henv => ?_,
    fun hall cs hcs => ⟨_, ofProject_eq hread hschema, ?_⟩⟩
  · simp only [mapError_eq_ok_iff, ofConfig_eq_ok_iff, exists_and_left, exists_eq', and_true]
  · obtain ⟨cause, hcause, rfl⟩ := mapError_eq_error_iff.1 he
    exact ⟨cause, rfl, fault_of_ofConfig_eq_error hcause⟩
  · obtain ⟨-, rfl⟩ := ofConfig_eq_ok_iff.1 (mapError_eq_ok_iff.1 henv)
    exact isSetUpBy_described
  · obtain ⟨herror, hok⟩ := ofConfig_only_of_all hall hcs
    refine ⟨fun e => ?_, fun env henv => ?_⟩
    · simp only [mapError_eq_error_iff, herror]
    · obtain ⟨env', henv', hsame⟩ := hok env (mapError_eq_ok_iff.1 henv)
      exact ⟨env', mapError_eq_ok_iff.2 henv', hsame⟩

end Project

end Environment

/-! ## A project with two counters -/

/-- The files of a project of cranes and quays. -/
def Files.docks : Files :=
  .ofList [("conf/schema.toml", Registry.docksText)]

/-- Caches for all components, and two counters. -/
def Config.docks : Config :=
  { schema := "schema.toml", caches := .all
    keyGenerators := [("cranes", "counter"), ("quays", "counter")] }

/-- A list with the quays first and twice leads to the same statements as the wildcard. -/
theorem Environment.ofProject_exact_docks :
    ∃ env env',
      (ofProject Files.access .docks "conf").run .docks = (.ok env, .docks) ∧
      (ofProject Files.access { Config.docks with
        caches := .only [Component.quay.name, Component.crane.name, Component.quay.name] }
          "conf").run .docks = (.ok env', .docks) ∧
      (∀ key, StatementFactory.dispatch StatementFactory.defaults env' key =
        StatementFactory.dispatch StatementFactory.defaults env key) ∧
      env.cache? Component.crane.name = some Component.crane.name ∧
      Session.keysOf "cranes"
          ((Session.start env StatementFactory.defaults).drawNamed ["cranes", "quays", "cranes"]) =
        [.int 1, .int 2] ∧
      ∃ e, (ofProject Files.access { Config.docks with keyGenerators := [("cranes", "sequence")] }
        "conf").run .docks = (.error e, .docks) := by
  have hread : Files.docks.read (FilePath.join "conf" "schema.toml") = .ok Registry.docksText := by
    have hpath : FilePath.join "conf" "schema.toml" = "conf/schema.toml" := by decide +kernel
    have hnull : "conf/schema.toml".contains (Char.ofNat 0) = false := by simp
    unfold Files.read Files.locate Location.start
    rw [hpath, hnull]
    decide +kernel
  have hlist : Component.listOfText Registry.docksText = .ok [.crane, .quay] := by decide +kernel
  have hschema : Registry.ofText Registry.docksText =
      .ok (Registry.empty.submitAll [.crane, .quay]) :=
    (Registry.ofText_eq_ok_iff hlist).2 ⟨by decide, rfl⟩
  have htypes : ∀ c, c ∈ [Component.quay.name, Component.crane.name, Component.quay.name] ↔
      c ∈ (Registry.empty.submitAll [.crane, .quay]).types := by
    intro c
    rw [Registry.mem_types_iff_contains, Registry.contains_empty_submitAll_iff]
    simp only [List.mem_cons, List.map_cons, List.map_nil, List.not_mem_nil, or_false]
    rw [or_left_comm, or_self]
  have hmet : Config.docks.IsMetBy (Registry.empty.submitAll [.crane, .quay]) := by
    refine ⟨nofun, fun g hg => ⟨.counter, List.mem_cons_self .., ?_, rfl⟩⟩
    rcases List.mem_pair.1 hg with rfl | rfl <;> rfl
  obtain ⟨_, hrun, hexists, -, hsetup, hlisted⟩ :=
    @ofProject_exact _ .docks _ "conf" _ hread hschema
  obtain ⟨env, rfl⟩ := hexists.2 hmet
  obtain ⟨_, hrunListed, -, hsame⟩ := hlisted rfl _ htypes
  obtain ⟨env', rfl, hacts⟩ := hsame env rfl
  obtain ⟨refused, hrunRefused, hexistsRefused, -⟩ := @ofProject_exact _
    { Config.docks with keyGenerators := [("cranes", "sequence")] } _ "conf" _ hread hschema
  have hcrane := (htypes Component.crane.name).1 (by simp)
  have hkeys := (hsetup env rfl).keysOf_eq "cranes" (by decide) ["cranes", "quays", "cranes"]
  refine ⟨env, env', hrun, hrunListed, hacts.dispatch_eq,
    ((hsetup env rfl).cache?_eq_some_iff _ _).2 ⟨hcrane, rfl⟩, hkeys.trans (by decide), ?_⟩
  cases refused with
  | error e => exact ⟨e, hrunRefused⟩
  | ok env =>
    obtain ⟨c, hc, hname, hplain⟩ :=
      (hexistsRefused.1 ⟨env, rfl⟩).buildable _ (List.mem_singleton_self _)
    rcases List.mem_pair.1 hc with rfl | rfl
    · exact absurd hname (by decide)
    · cases hplain

end KeyedSql
