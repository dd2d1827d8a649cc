import KeyedSql.Proofs.Compile.Finders
import KeyedSql.Proofs.Compile.Generators
import KeyedSql.Proofs.Schema.Form
import KeyedSql.Statement.Form

/-!
# The generation of keys

Which generator an insert gets is settled in three steps: the first identity of the component asks
for a generator by name, for a class or for nothing (`Identity.AsksFor`), and what it asks for is
there or is not (`Environment.Supplies`). `Environment.Resolves` puts the steps together, errors
included. An insert whose columns are valid gets what is resolved, and where the resolution fails
there is no statement.
-/

namespace KeyedSql

open Outcome

/-! ## What is asked for -/

/-- The text is absent or blank. -/
def LacksText (text : Option String) : Prop :=
  ∀ s ∈ text, Text.isBlank s = true

/-- What an identity asks for: the generator of a name, whatever class is declared besides, else a
generator of a class, else nothing. -/
inductive Identity.AsksFor (identity : Identity) : Option GeneratorRef → Prop where
  | named {id : String} (hid : identity.generatorId = some id) (hblank : Text.isBlank id = false) :
      AsksFor identity (some (.named id))
  | ofClass {name : String} (hid : LacksText identity.generatorId)
      (hname : identity.generatorClass = some name) (hblank : Text.isBlank name = false) :
      AsksFor identity (some (.ofClass name))
  | nothing (hid : LacksText identity.generatorId) (hname : LacksText identity.generatorClass) :
      AsksFor identity none

/-- The property is the first one of the component that is an identity. -/
def Component.FirstIdentity (c : Component) (p : Property) (identity : Identity) : Prop :=
  ∃ before after, c.properties = before ++ p :: after ∧ (∀ q ∈ before, q.identity = none) ∧
    p.identity = some identity

theorem nonBlank?_eq_some_iff {text : Option String} {s : String} :
    nonBlank? text = some s ↔ text = some s ∧ Text.isBlank s = false := by
  simp [nonBlank?, Option.filter_eq_some_iff]

theorem nonBlank?_eq_none_iff {text : Option String} : nonBlank? text = none ↔ LacksText text := by
  simp [nonBlank?, LacksText, Option.filter_eq_none_iff]

theorem Identity.asksFor_iff {identity : Identity} {ref : Option GeneratorRef} :
    identity.AsksFor ref ↔ identity.generatorRef? = ref := by
  unfold generatorRef?
  constructor
  · intro h
    cases h with
    | named hid hblank => rw [nonBlank?_eq_some_iff.2 ⟨hid, hblank⟩]
    | ofClass hid hname hblank =>
      rw [nonBlank?_eq_none_iff.2 hid, nonBlank?_eq_some_iff.2 ⟨hname, hblank⟩]
      rfl
    | nothing hid hname =>
      rw [nonBlank?_eq_none_iff.2 hid, nonBlank?_eq_none_iff.2 hname]
      rfl
  · rintro rfl
    cases hid : nonBlank? identity.generatorId with
    | some id =>
      obtain ⟨hid, hblank⟩ := nonBlank?_eq_some_iff.1 hid
      exact .named hid hblank
    | none =>
      have hid := nonBlank?_eq_none_iff.1 hid
      cases hname : nonBlank? identity.generatorClass with
      | some name =>
        obtain ⟨hname, hblank⟩ := nonBlank?_eq_some_iff.1 hname
        exact .ofClass hid hname hblank
      | none => exact .nothing hid (nonBlank?_eq_none_iff.1 hname)

namespace Component

variable {c : Component} {p : Property} {identity : Identity}

theorem firstIdentity_iff :
    c.FirstIdentity p identity ↔ c.identities.head? = some p ∧ p.identity = some identity := by
  rw [identities, List.head?_filter, List.find?_eq_some_iff_append]
  simp only [Property.isIdentity, FirstIdentity]
  constructor
  · rintro ⟨before, after, hproperties, hbefore, hidentity⟩
    refine ⟨⟨by rw [hidentity]; rfl, before, after, hproperties, fun q hq => ?_⟩, hidentity⟩
    rw [hbefore q hq]
    rfl
  · rintro ⟨⟨-, before, after, hproperties, hbefore⟩, hidentity⟩
    refine ⟨before, after, hproperties, fun q hq => ?_, hidentity⟩
    simpa using hbefore q hq

theorem head?_identities_eq_none_iff :
    c.identities.head? = none ↔ ∀ p ∈ c.properties, p.identity = none := by
  simp [identities, List.head?_filter, Property.isIdentity]

end Component

/-! ## What is there -/

namespace Environment

variable {env : Environment} {site : GeneratorSite} {ref : GeneratorRef}
  {outcome : Except ConfigError HeldGenerator}

/-- What the environment has for a reference at a site. The constructor of a class that is made for
sites comes first, and its failure is final. -/
inductive Supplies (env : Environment) (site : GeneratorSite) :
    GeneratorRef → Except ConfigError HeldGenerator → Prop where
  | registered {id : String} {named : NamedGenerator} (hnamed : env.generator? id = some named) :
      Supplies env site (.named id) (.ok (.shared named.toSharedGenerator))
  | unregistered {id : String} (hnone : env.generator? id = none) :
      Supplies env site (.named id) (.error (.unknownGenerator (site.wish id)))
  | constructed {name : String} {d : GeneratorClass} {g : HeldGenerator}
      {construct : GeneratorSite → Except ConfigError HeldGenerator}
      (hclass : GeneratorClass.find? env.classes name = some d) (hsite : d.forSite = some construct)
      (hok : construct site = .ok g) : Supplies env site (.ofClass name) (.ok g)
  | failed {name : String} {d : GeneratorClass} {e : ConfigError}
      {construct : GeneratorSite → Except ConfigError HeldGenerator}
      (hclass : GeneratorClass.find? env.classes name = some d) (hsite : d.forSite = some construct)
      (herror : construct site = .error e) :
      Supplies env site (.ofClass name) (.error (.generatorNotBuilt (site.wish d.name)))
  | plain {name : String} {d : GeneratorClass} {g : HeldGenerator}
      (hclass : GeneratorClass.find? env.classes name = some d) (hsite : d.forSite = none)
      (hplain : d.plain = some g) : Supplies env site (.ofClass name) (.ok g)
  | unbuildable {name : String} {d : GeneratorClass}
      (hclass : GeneratorClass.find? env.classes name = some d) (hsite : d.forSite = none)
      (hplain : d.plain = none) :
      Supplies env site (.ofClass name) (.error (.generatorNotBuilt (site.wish d.name)))
  | unknownClass {name : String} (hnone : GeneratorClass.find? env.classes name = none) :
      Supplies env site (.ofClass name) (.error (.unknownWishedClass (site.wish name)))

/-- The generator that an insert of the component gets, if it gets one, or the reason why there is
no insert. -/
inductive Resolves (env : Environment) (key : String) (c : Component) :
    Except ConfigError (Option HeldGenerator) → Prop where
  | noIdentity (hnone : ∀ p ∈ c.properties, p.identity = none) : Resolves env key c (.ok none)
  | nothing {p : Property} {identity : Identity} (hp : c.FirstIdentity p identity)
      (hasks : identity.AsksFor none) : Resolves env key c (.ok none)
  | supplied {p : Property} {identity : Identity} {ref : GeneratorRef}
      {outcome : Except ConfigError HeldGenerator}
      (hp : c.FirstIdentity p identity) (hasks : identity.AsksFor (some ref))
      (hsupplies : env.Supplies (env.site key c.name p.name) ref outcome) :
      Resolves env key c (outcome.map some)

theorem exists_supplies (env : Environment) (site : GeneratorSite) (ref : GeneratorRef) :
    ∃ outcome, env.Supplies site ref outcome := by
  cases ref with
  | named id =>
    cases hnamed : env.generator? id with
    | none => exact ⟨_, .unregistered hnamed⟩
    | some named => exact ⟨_, .registered hnamed⟩
  | ofClass name =>
    cases hclass : GeneratorClass.find? env.classes name with
    | none => exact ⟨_, .unknownClass hclass⟩
    | some d =>
      cases hsite : d.forSite with
      | some construct =>
        cases hconstruct : construct site with
        | error e => exact ⟨_, .failed hclass hsite hconstruct⟩
        | ok g => exact ⟨_, .constructed hclass hsite hconstruct⟩
      | none =>
        cases hplain : d.plain with
        | none => exact ⟨_, .unbuildable hclass hsite hplain⟩
        | some g => exact ⟨_, .plain hclass hsite hplain⟩

theorem exists_resolves (env : Environment) (key : String) (c : Component) :
    ∃ outcome, env.Resolves key c outcome := by
  cases hhead : c.identities.head? with
  | none => exact ⟨_, .noIdentity (Component.head?_identities_eq_none_iff.1 hhead)⟩
  | some p =>
    have hp : p.isIdentity = true := (List.mem_filter.1 (List.mem_of_head? hhead)).2
    obtain ⟨identity, hidentity⟩ := Option.isSome_iff_exists.1 hp
    have hfirst := Component.firstIdentity_iff.2 ⟨hhead, hidentity⟩
    cases href : identity.generatorRef? with
    | none => exact ⟨_, .nothing hfirst (Identity.asksFor_iff.2 href)⟩
    | some ref =>
      obtain ⟨outcome, hsupplies⟩ := env.exists_supplies (env.site key c.name p.name) ref
      exact ⟨_, .supplied hfirst (Identity.asksFor_iff.2 href) hsupplies⟩

theorem wishedGenerator_of_nothing {identity : Identity} (h : identity.AsksFor none) :
    env.wishedGenerator site identity = .ok none := by
  cases h with
  | nothing hid hname =>
    rw [wishedGenerator, nonBlank?_eq_none_iff.2 hid]
    simp only [nonBlank?_eq_none_iff.2 hname]

theorem buildFor_of_supplies {name : String} (h : env.Supplies site (.ofClass name) outcome) :
    GeneratorClass.buildFor env.classes site name = outcome := by
  unfold GeneratorClass.buildFor
  cases h with
  | constructed hclass hsite h | failed hclass hsite h =>
    simp only [hclass, GeneratorClass.build, hsite, h]
    rfl
  | plain hclass hsite h | unbuildable hclass hsite h =>
    simp only [hclass, GeneratorClass.build, hsite, h]
  | unknownClass hnone => simp only [hnone]

theorem wishedGenerator_of_supplies {identity : Identity} (hasks : identity.AsksFor (some ref))
    (h : env.Supplies site ref outcome) :
    env.wishedGenerator site identity = outcome.map some := by
  unfold wishedGenerator
  cases hasks with
  | named hid hblank =>
    simp only [nonBlank?_eq_some_iff.2 ⟨hid, hblank⟩]
    cases h with
    | registered hnamed => simp only [hnamed, Except.map]
    | unregistered hnone => simp only [hnone, Except.map]
  | ofClass hid hname hblank =>
    simp only [nonBlank?_eq_none_iff.2 hid, nonBlank?_eq_some_iff.2 ⟨hname, hblank⟩]
    rw [buildFor_of_supplies h]

theorem generatedKey_of_resolves {key : String} {c : Component}
    {outcome : Except ConfigError (Option HeldGenerator)}
    (h : env.Resolves key c outcome) :
    (env.generatedKey key c).map (fun generation => generation.map (·.generator)) = outcome := by
  unfold generatedKey
  cases h with
  | noIdentity hnone =>
    simp only [Component.head?_identities_eq_none_iff.2 hnone]
    rfl
  | nothing hp hasks =>
    obtain ⟨hhead, hidentity⟩ := Component.firstIdentity_iff.1 hp
    simp only [hhead, hidentity, wishedGenerator_of_nothing hasks]
    rfl
  | @supplied p identity ref outcome hp hasks hsupplies =>
    obtain ⟨hhead, hidentity⟩ := Component.firstIdentity_iff.1 hp
    simp only [hhead, hidentity, wishedGenerator_of_supplies hasks hsupplies]
    cases outcome <;> rfl

theorem resolves_iff {key : String} {c : Component}
    {outcome : Except ConfigError (Option HeldGenerator)} :
    env.Resolves key c outcome ↔
      (env.generatedKey key c).map (fun generation => generation.map (·.generator)) =
        outcome := by
  constructor
  · exact generatedKey_of_resolves
  · rintro rfl
    obtain ⟨outcome, h⟩ := env.exists_resolves key c
    rwa [generatedKey_of_resolves h]

end Environment

/-! ## Inserts -/

/-- What a component must declare for its rows to be inserted, apart from their keys. -/
structure Component.CanInsert (c : Component) : Prop where
  table : ∃ table, c.table = some table ∧ Text.isBlank table = false
  usable : ∀ column ∈ c.declaredColumns, column.IsUsable
  mapped : c.declaredColumns ≠ []

/-- The statement has the sequence and the select key of the generator, and its document shows
them. -/
def Statement.ShowsGenerator (s : Statement) (g : KeyGenerator) : Prop :=
  ∃ generated shown, s.generatedKey = some generated ∧
    generated.sequence = g.sequence ∧ generated.selectKey = g.selectKey ∧
      s.document.member? "key_generator" = some shown ∧
        shown.member? "sequence" = g.sequence.map .text ∧
          shown.member? "select_key" = g.selectKey.map .text

theorem Statement.showsGenerator {s : Statement} {generated : GeneratedKey} {g : KeyGenerator}
    (h : s.generatedKey = some generated) (hsequence : generated.sequence = g.sequence)
    (hselectKey : generated.selectKey = g.selectKey) : s.ShowsGenerator g := by
  refine ⟨generated, generated.document, h, hsequence, hselectKey, ?_, ?_, ?_⟩
  · simp [document, members, Document.member?, List.lookup_append, lookup_member,
      lookup_optionalMember, h]
  · simp [GeneratedKey.document, Document.member?, List.lookup_append, lookup_member,
      lookup_optionalMember, hsequence]
  · simp [GeneratedKey.document, Document.member?, List.lookup_append, lookup_member,
      lookup_optionalMember, hselectKey]

namespace Environment

variable {env : Environment} {type : ComponentType} {c : Component}

/-- Where the rest of an insert is valid, it turns on the generation of its keys. -/
theorem exists_insertStatement_eq (hc : env.registry.find? type = some c) (hcan : c.CanInsert) :
    ∃ sql, ∀ key, env.insertStatement key type = (env.generatedKey key c).map fun generation =>
      .ofWrite key sql generation (env.writeCacheUse type) := by
  obtain ⟨table, htable⟩ := hcan.table
  obtain ⟨columns, hcolumns⟩ := Component.exists_rowColumns_iff.2 ⟨hcan.usable, hcan.mapped⟩
  refine ⟨.insert table (columns.map (·.ownSlot none)), fun key => ?_⟩
  rw [insertStatement, Registry.component_eq_ok_iff.2 hc]
  change (c.tableName >>= fun table => c.rowColumns >>= fun columns => _) = _
  rw [Component.tableName_eq_ok_iff.2 htable, hcolumns]
  change (env.generatedKey key c >>= fun generation => _) = _
  cases env.generatedKey key c <;> rfl

/-- An insert has what is resolved, and there is no insert exactly where the resolution fails. -/
theorem resolves_iff_dispatch (hc : env.registry.find? type = some c) (hcan : c.CanInsert)
    {outcome : Except ConfigError (Option HeldGenerator)} :
    env.Resolves (StatementKey.mk type .insert).text c outcome ↔
      (StatementFactory.dispatch StatementFactory.defaults env
        (StatementKey.mk type .insert).text).map (·.generator?) =
          outcome.mapError .configuration := by
  obtain ⟨sql, hinsert⟩ := exists_insertStatement_eq hc hcan
  have hread : StatementKey.ofText (StatementKey.mk type .insert).text = .ok ⟨type, .insert⟩ :=
    StatementKey.ofText_eq_ok_iff.2 ⟨trivial, rfl⟩
  rw [resolves_iff, StatementFactory.dispatch_defaults, hread]
  change _ ↔ ((env.insertStatement _ type).mapError Error.configuration).map (·.generator?) = _
  rw [hinsert]
  cases env.generatedKey (StatementKey.mk type .insert).text c with
  | error e => cases outcome <;> simp [Except.map, Except.mapError]
  | ok generation =>
    cases outcome with
    | error e => simp [Except.map, Except.mapError]
    | ok wish =>
      simp only [Except.map, Except.mapError, Except.ok.injEq]
      exact Iff.rfl

/-- Generated keys have the sequence and the select key of their generator. -/
theorem sequence_of_generatedKey {key : String} {generated : GeneratedKey}
    (h : env.generatedKey key c = .ok (some generated)) :
    generated.sequence = generated.generator.generator.sequence ∧
      generated.selectKey = generated.generator.generator.selectKey := by
  unfold generatedKey at h
  cases hhead : c.identities.head? with
  | none =>
    rw [hhead] at h
    cases h
  | some p =>
    cases hidentity : p.identity with
    | none =>
      simp only [hhead, hidentity] at h
      cases h
    | some identity =>
      simp only [hhead, hidentity] at h
      obtain ⟨wish, -, h⟩ := bind_eq_ok_iff.1 h
      obtain ⟨g, -, rfl⟩ := Option.map_eq_some_iff.1 (Except.ok.inj h)
      exact ⟨rfl, rfl⟩

theorem showsGenerator_of_dispatch (hc : env.registry.find? type = some c) (hcan : c.CanInsert)
    {s : Statement} {g : HeldGenerator}
    (h : StatementFactory.dispatch StatementFactory.defaults env
      (StatementKey.mk type .insert).text = .ok s)
    (hg : s.generator? = some g) : s.ShowsGenerator g.generator := by
  obtain ⟨sql, hinsert⟩ := exists_insertStatement_eq hc hcan
  obtain ⟨k, -, htext, hstatement⟩ := StatementFactory.dispatch_defaults_eq_ok_iff.1 h
  obtain rfl := StatementKey.text_injective htext
  obtain ⟨generation, hgeneration, rfl⟩ := map_eq_ok_iff.1 ((hinsert _).symm.trans hstatement)
  obtain ⟨generated, rfl, rfl⟩ := Option.map_eq_some_iff.1 hg
  obtain ⟨hsequence, hselectKey⟩ := sequence_of_generatedKey hgeneration
  exact Statement.showsGenerator rfl hsequence hselectKey

theorem resolves_none_iff {key : String} :
    env.Resolves key c (.ok none) ↔
      (∀ p ∈ c.properties, p.identity = none) ∨
        ∃ p identity, c.FirstIdentity p identity ∧ LacksText identity.generatorId ∧
          LacksText identity.generatorClass := by
  constructor
  · generalize houtcome : (Except.ok none : Except ConfigError _) = outcome
    intro h
    cases h with
    | noIdentity hnone => exact .inl hnone
    | nothing hp hasks =>
      cases hasks with
      | nothing hid hname => exact .inr ⟨_, _, hp, hid, hname⟩
    | @supplied p identity ref outcome hp hasks hsupplies =>
      cases outcome <;> cases houtcome
  · rintro (hnone | ⟨p, identity, hp, hid, hname⟩)
    · exact .noIdentity hnone
    · exact .nothing hp (.nothing hid hname)

end Environment

namespace StatementFactory

/-- An insert has the one generator that is resolved for it, or there is no statement. -/
theorem insert_generator_exact {env : Environment} {type : ComponentType} {c : Component}
    (hc : env.registry.find? type = some c) (hcan : c.CanInsert) :
    (∃! outcome, env.Resolves (StatementKey.mk type .insert).text c outcome) ∧
      (∀ wish, env.Resolves (StatementKey.mk type .insert).text c (.ok wish) ↔
        ∃ s, dispatch defaults env (StatementKey.mk type .insert).text = .ok s ∧
          s.generator? = wish) ∧
      (∀ e, env.Resolves (StatementKey.mk type .insert).text c (.error e) ↔
        dispatch defaults env (StatementKey.mk type .insert).text = .error (.configuration e)) ∧
      ((∃ s, dispatch defaults env (StatementKey.mk type .insert).text = .ok s ∧
          s.generator? = none) ↔
        (∀ p ∈ c.properties, p.identity = none) ∨
          ∃ p identity, c.FirstIdentity p identity ∧ LacksText identity.generatorId ∧
            LacksText identity.generatorClass) ∧
      ∀ s g, dispatch defaults env (StatementKey.mk type .insert).text = .ok s →
        s.generator? = some g → s.ShowsGenerator g.generator := by
  have hok : ∀ wish, env.Resolves (StatementKey.mk type .insert).text c (.ok wish) ↔
      ∃ s, dispatch defaults env (StatementKey.mk type .insert).text = .ok s ∧
        s.generator? = wish := by
    intro wish
    rw [Environment.resolves_iff_dispatch hc hcan]
    exact map_eq_ok_iff
  refine ⟨?_, hok, fun e => ?_, ?_, fun s g =>
    Environment.showsGenerator_of_dispatch hc hcan⟩
  · obtain ⟨outcome, houtcome⟩ := env.exists_resolves (StatementKey.mk type .insert).text c
    refine ⟨outcome, houtcome, fun other hother => ?_⟩
    rw [← Environment.generatedKey_of_resolves houtcome,
      ← Environment.generatedKey_of_resolves hother]
  · rw [Environment.resolves_iff_dispatch hc hcan]
    exact map_eq_error_iff
  · rw [← hok, Environment.resolves_none_iff]

end StatementFactory

/-! ## Two inserts of a warehouse -/

/-- Parcels, with keys from the sequence of their table: the name of the generator is blank, and the
second identity does not count. -/
def Component.parcel : Component where
  name := ⟨"a.Parcel", by decide⟩
  table := some "PARCEL"
  cacheLinks := []
  properties := [
    { Property.ofType "id" (.scalar .int64) with
      column := some (.ofName "ID"), identity := some ⟨some " ", some KeyGenerator.sequenceClass⟩ },
    { Property.ofType "code" (.scalar .text) with
      column := some (.ofName "CODE"), identity := some ⟨some "codes", none⟩ }]

/-- Crates, with keys of a class that cannot build a generator for them. -/
def Component.crate : Component where
  name := ⟨"a.Crate", by decide⟩
  table := some "CRATE"
  cacheLinks := []
  properties := [
    { Property.ofType "id" (.scalar .int64) with
      column := some (.ofName "ID"), identity := some ⟨none, some "fragile"⟩ }]

/-- A class that builds counters, but none for a statement. -/
def GeneratorClass.fragile : GeneratorClass :=
  ⟨"fragile", some fun _ => .error (.reported "out of order"), some (.new (.counter 1))⟩

/-- Parcels and crates, with the class for crates. -/
def Environment.warehouse : Environment :=
  (Environment.ofRegistry ⟨[.parcel, .crate], by decide⟩).addClass .fragile

namespace StatementFactory

theorem insert_generator_exact_warehouse :
    Environment.warehouse.registry.find? Component.parcel.name = some .parcel ∧
      Component.parcel.CanInsert ∧
      (∃ s, dispatch defaults .warehouse "a.Parcel/insert" = .ok s ∧
        s.generator? = some (.new (.ofSequence "SEQ_PARCEL")) ∧
          s.ShowsGenerator (.ofSequence "SEQ_PARCEL")) ∧
      Environment.warehouse.registry.find? Component.crate.name = some .crate ∧
      Component.crate.CanInsert ∧
      dispatch defaults .warehouse "a.Crate/insert" =
        .error (.configuration (.generatorNotBuilt ⟨"fragile", Component.crate.name, "id"⟩)) := by
  have hparcel : Environment.warehouse.registry.find? Component.parcel.name = some .parcel := by
    decide
  have hcrate : Environment.warehouse.registry.find? Component.crate.name = some .crate := by
    decide
  have hparcelCan : Component.parcel.CanInsert := by
    refine ⟨⟨"PARCEL", rfl, by decide⟩, ?_, by decide⟩
    unfold RowColumn.IsUsable
    decide
  have hcrateCan : Component.crate.CanInsert := by
    refine ⟨⟨"CRATE", rfl, by decide⟩, ?_, by decide⟩
    unfold RowColumn.IsUsable
    decide
  have hparcelKey : StatementKey.text ⟨Component.parcel.name, .insert⟩ = "a.Parcel/insert" := by
    decide +kernel
  have hcrateKey : StatementKey.text ⟨Component.crate.name, .insert⟩ = "a.Crate/insert" := by
    decide +kernel
  refine ⟨hparcel, hparcelCan, ?_, hcrate, hcrateCan, ?_⟩
  · have hfirst : Component.parcel.FirstIdentity Component.parcel.properties[0]
        ⟨some " ", some KeyGenerator.sequenceClass⟩ := ⟨[], _, rfl, List.forall_mem_nil _, rfl⟩
    have hblank : LacksText (some " ") := by
      rintro _ ⟨⟩
      decide
    have hasks : Identity.AsksFor ⟨some " ", some KeyGenerator.sequenceClass⟩
        (some (.ofClass KeyGenerator.sequenceClass)) := .ofClass hblank rfl (by decide)
    obtain ⟨-, hok, -, -, hshows⟩ := insert_generator_exact hparcel hparcelCan
    obtain ⟨s, hs, hgenerator⟩ := (hok (some (.new (.ofSequence "SEQ_PARCEL")))).1
      (.supplied hfirst hasks (.constructed rfl rfl rfl))
    exact ⟨s, hparcelKey ▸ hs, hgenerator, hshows s _ hs hgenerator⟩
  · have hfirst : Component.crate.FirstIdentity Component.crate.properties[0]
        ⟨none, some "fragile"⟩ := ⟨[], _, rfl, List.forall_mem_nil _, rfl⟩
    have hasks : Identity.AsksFor ⟨none, some "fragile"⟩ (some (.ofClass "fragile")) :=
      .ofClass (by simp [LacksText]) rfl (by decide)
    have hclass : GeneratorClass.find? Environment.warehouse.classes "fragile" = some .fragile :=
      rfl
    obtain ⟨-, -, herror, -⟩ := insert_generator_exact hcrate hcrateCan
    rw [← hcrateKey]
    exact (herror _).1 (.supplied hfirst hasks (.failed hclass rfl rfl))

end StatementFactory

end KeyedSql
