import KeyedSql.Proofs.Compile.Dispatch

/-!
# The generators of statements

What an insert asks for stands in the declaration of its component: a generator by name, one of a
class, or nothing. `Environment.Grants` says what a statement gets for it. A generator that is
registered by a name is shared by all statements that ask for the name, while the classes that are
always there build a new one for each.
-/

namespace KeyedSql

open Outcome

/-- What an identity asks for. -/
inductive GeneratorRef where
  /-- The generator that is registered by a name. -/
  | named (id : String)
  /-- A generator of a class. -/
  | ofClass (name : String)
  deriving DecidableEq

/-- What an identity asks for: a name comes before a class, and what is blank is not there. -/
def Identity.generatorRef? (identity : Identity) : Option GeneratorRef :=
  match nonBlank? identity.generatorId with
  | some id => some (.named id)
  | none => (nonBlank? identity.generatorClass).map .ofClass

/-- What a component asks for, by its first identity property. -/
def Component.generatorRef? (c : Component) : Option GeneratorRef :=
  (c.identities.head?.bind (·.identity)).bind Identity.generatorRef?

namespace Environment

/-- What the statement of a key asks for: only inserts need new keys. -/
def generatorRef? (env : Environment) (key : StatementKey) : Option GeneratorRef :=
  match key.request with
  | .insert => (env.registry.find? key.component).bind Component.generatorRef?
  | _ => none

/-- The generator that a statement gets for what it asks for. -/
inductive Grants (env : Environment) : Option GeneratorRef → Option HeldGenerator → Prop where
  | nothing : Grants env none none
  | named {id : String} {named : NamedGenerator} (hnamed : env.generator? id = some named) :
      Grants env (some (.named id)) (some (.shared named.toSharedGenerator))
  | ofClass {name : String} {c : GeneratorClass} {site : GeneratorSite} {g : HeldGenerator}
      (hclass : GeneratorClass.find? env.classes name = some c) (hbuild : c.build site = .ok g) :
      Grants env (some (.ofClass name)) (some g)

end Environment

/-- The generator of a statement. -/
def Statement.generator? (s : Statement) : Option HeldGenerator :=
  s.generatedKey.map (·.generator)

/-! ## Classes -/

namespace GeneratorClass

theorem exists_of_buildFor_eq_ok {classes : List GeneratorClass} {site : GeneratorSite}
    {name : String} {g : HeldGenerator} (h : buildFor classes site name = .ok g) :
    ∃ c, find? classes name = some c ∧ c.build site = .ok g := by
  unfold buildFor at h
  cases hfind : find? classes name with
  | none =>
    rw [hfind] at h
    cases h
  | some c =>
    rw [hfind] at h
    exact ⟨c, rfl, h⟩

theorem buildFor_congr {classes : List GeneratorClass} {site site' : GeneratorSite}
    (hwish : ∀ name, site'.wish name = site.wish name)
    (hbuild : ∀ c ∈ classes, c.build site' = c.build site) (name : String) :
    buildFor classes site' name = buildFor classes site name := by
  unfold buildFor
  cases hfind : find? classes name with
  | none => simp only [hwish]
  | some c => exact hbuild c (List.mem_of_find?_eq_some hfind)

/-- The class may give a generator to a statement that others have, too. -/
def HandsOut (c : GeneratorClass) (g : SharedGenerator) : Prop :=
  ∃ site, c.build site = .ok (.shared g)

/-- The classes that are always there build new generators that count from one. -/
theorem exists_new_of_build_of_mem_builtins {c : GeneratorClass} (hc : c ∈ builtins)
    {site : GeneratorSite} {held : HeldGenerator} (h : c.build site = .ok held) :
    ∃ g, held = .new g ∧ g.source = .counting 1 := by
  rcases List.mem_pair.1 hc with rfl | rfl
  · cases h
    exact ⟨_, rfl, rfl⟩
  · obtain ⟨d, -, h⟩ := bind_eq_ok_iff.1 (mapError_eq_ok_iff.1 h)
    obtain ⟨table, -, h⟩ := bind_eq_ok_iff.1 h
    cases h
    exact ⟨_, rfl, rfl⟩

end GeneratorClass

namespace Environment

variable {env : Environment} {id : String} {s : Statement}

/-! ## What statements have -/

theorem grants_of_wishedGenerator {site : GeneratorSite} {identity : Identity}
    {wish : Option HeldGenerator} (h : env.wishedGenerator site identity = .ok wish) :
    env.Grants identity.generatorRef? wish := by
  unfold wishedGenerator at h
  unfold Identity.generatorRef?
  cases hid : nonBlank? identity.generatorId with
  | some id =>
    rw [hid] at h
    cases hnamed : env.generator? id with
    | none => simp [hnamed] at h
    | some named =>
      simp only [hnamed, Except.ok.injEq] at h
      exact h ▸ .named hnamed
  | none =>
    rw [hid] at h
    cases hname : nonBlank? identity.generatorClass with
    | none =>
      rw [hname] at h
      cases h
      exact .nothing
    | some name =>
      rw [hname] at h
      obtain ⟨g, hg, rfl⟩ := map_eq_ok_iff.1 h
      obtain ⟨c, hclass, hbuild⟩ := GeneratorClass.exists_of_buildFor_eq_ok hg
      exact .ofClass hclass hbuild

theorem grants_of_generatedKey {c : Component} {generation : Option GeneratedKey}
    (h : env.generatedKey id c = .ok generation) :
    env.Grants c.generatorRef? (generation.map (·.generator)) := by
  unfold generatedKey at h
  unfold Component.generatorRef?
  cases hhead : c.identities.head? with
  | none =>
    rw [hhead] at h
    cases h
    exact .nothing
  | some p =>
    cases hidentity : p.identity with
    | none =>
      simp only [hhead, hidentity] at h
      cases h
      simp only [Option.bind_some, hidentity]
      exact .nothing
    | some identity =>
      simp only [hhead, hidentity] at h
      obtain ⟨wish, hwish, h⟩ := bind_eq_ok_iff.1 h
      cases h
      simp only [Option.bind_some, hidentity]
      have hgrants := grants_of_wishedGenerator hwish
      cases wish <;> exact hgrants

theorem id_and_generator?_of_findStatement {c : Component} {plan : FindPlan} {cache : CacheUse}
    (h : env.findStatement id c plan cache = .ok s) : s.id = id ∧ s.generator? = none := by
  obtain ⟨cancelled, columns, shape, order, -, -, -, -, rfl⟩ := findStatement_eq_ok_iff.1 h
  exact ⟨rfl, rfl⟩

/-- A statement bears the text of its key, and has what is asked for there. -/
theorem grants_of_statementOf {key : StatementKey} (h : env.statementOf id key = .ok s) :
    s.id = id ∧ env.Grants (env.generatorRef? key) s.generator? := by
  obtain ⟨type, request⟩ := key
  cases request with
  | insert =>
    obtain ⟨c, table, columns, generation, hc, -, -, hgeneration, rfl⟩ :=
      insertStatement_eq_ok_iff.1 h
    refine ⟨rfl, ?_⟩
    rw [generatorRef?, Registry.component_eq_ok_iff.1 hc]
    exact grants_of_generatedKey hgeneration
  | update nlsProperties =>
    obtain ⟨sql, -, rfl⟩ := updateStatement_eq_ok_iff.1 h
    exact ⟨rfl, .nothing⟩
  | delete | deleteEntityById | deleteComponentsBy =>
    obtain ⟨c, table, conditions, -, -, -, rfl⟩ := deleteStatement_eq_ok_iff.1 h
    exact ⟨rfl, .nothing⟩
  | findEntityById =>
    obtain ⟨c, use, identity, source, -, -, -, -, hfind⟩ := findByIdStatement_eq_ok_iff.1 h
    obtain ⟨hid, hgenerator⟩ := id_and_generator?_of_findStatement hfind
    exact ⟨hid, hgenerator ▸ .nothing⟩
  | findComponentsBy properties orderBy ignoreCancel =>
    obtain ⟨c, use, slots, source, -, -, -, -, hfind⟩ := findByStatement_eq_ok_iff.1 h
    obtain ⟨hid, hgenerator⟩ := id_and_generator?_of_findStatement hfind
    exact ⟨hid, hgenerator ▸ .nothing⟩
  | findComponentsByJoinTable search orderBy ignoreCancel =>
    obtain ⟨c, use, source, slots, -, -, -, -, hfind⟩ := findByJoinStatement_eq_ok_iff.1 h
    obtain ⟨hid, hgenerator⟩ := id_and_generator?_of_findStatement hfind
    exact ⟨hid, hgenerator ▸ .nothing⟩
  | findNlsColumn property =>
    obtain ⟨c, table, p, column, identity, use, -, -, -, -, -, -, rfl⟩ :=
      localizedColumnStatement_eq_ok_iff.1 h
    exact ⟨rfl, .nothing⟩

/-! ## Environments that give the same generators -/

section Congr

variable {env' : Environment}

theorem wishedGenerator_congr (hgenerators : env'.generators = env.generators)
    (hclasses : env'.classes = env.classes) {site site' : GeneratorSite}
    (hwish : ∀ name, site'.wish name = site.wish name)
    (hbuild : ∀ d ∈ env.classes, d.build site' = d.build site) (identity : Identity) :
    env'.wishedGenerator site' identity = env.wishedGenerator site identity := by
  unfold wishedGenerator generator?
  simp only [hgenerators, hclasses, hwish, GeneratorClass.buildFor_congr hwish hbuild]

/-- Where the named generators are the same, what inserts get turns on what the classes build. -/
theorem generatedKey_congr (hgenerators : env'.generators = env.generators)
    (hclasses : env'.classes = env.classes) {c : Component}
    (hbuild : ∀ d ∈ env.classes, ∀ property,
      d.build (env'.site id c.name property) = d.build (env.site id c.name property)) :
    env'.generatedKey id c = env.generatedKey id c := by
  have hwished : ∀ (property : String) (identity : Identity),
      env'.wishedGenerator (env'.site id c.name property) identity =
        env.wishedGenerator (env.site id c.name property) identity := fun property =>
    wishedGenerator_congr hgenerators hclasses (fun _ => rfl) fun d hd => hbuild d hd property
  unfold generatedKey
  simp only [hwished]

end Congr

/-! ## Names of one generator -/

/-- The generator has no other name, and no class hands it out. -/
structure KnowsOnlyAs (env : Environment) (id : String) (g : SharedGenerator) : Prop where
  id_eq : ∀ id' named, env.generator? id' = some named → named.toSharedGenerator = g → id' = id
  not_handsOut : ∀ c ∈ env.classes, ¬ c.HandsOut g

/-- No two names are registered with generators of one serial number. -/
def DistinctSerials (env : Environment) : Prop :=
  (env.generators.map (·.serial)).Nodup

theorem DistinctSerials.addGenerator (h : env.DistinctSerials) (id : String) (g : KeyGenerator) :
    (env.addGenerator id (env.newGenerator g)).DistinctSerials := by
  refine List.nodup_cons.2 ⟨fun hmem => ?_, h.sublist (List.filter_sublist.map _)⟩
  -- The new number is beyond those of all generators that are there, kept or not.
  obtain ⟨named, hnamed, hserial⟩ := List.mem_map.1 hmem
  exact absurd hserial (Nat.ne_of_lt (env.serial_lt named (List.mem_of_mem_filter hnamed)))

theorem id_of_generator? {named : NamedGenerator} (h : env.generator? id = some named) :
    named.id = id := by
  simpa using List.find?_some h

/-- Two names with the serial number of one generator are one name. -/
theorem DistinctSerials.id_eq (h : env.DistinctSerials) {id' : String} {a b : NamedGenerator}
    (ha : env.generator? id = some a) (hb : env.generator? id' = some b)
    (hserial : a.serial = b.serial) : id = id' := by
  have hab : a = b := Registry.eq_of_mem_of_nodup_map h
    (List.mem_of_find?_eq_some ha) (List.mem_of_find?_eq_some hb) hserial
  rw [← id_of_generator? ha, hab, id_of_generator? hb]

end Environment

theorem StatementFactory.id_of_dispatch {env : Environment} {key : String} {s : Statement}
    (h : dispatch defaults env key = .ok s) : s.id = key := by
  obtain ⟨k, -, -, hstatement⟩ := dispatch_defaults_eq_ok_iff.1 h
  exact (Environment.grants_of_statementOf hstatement).1

end KeyedSql
