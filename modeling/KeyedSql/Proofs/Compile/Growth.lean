import KeyedSql.Proofs.Compile.Generators
import KeyedSql.Proofs.Links.Agreement

/-!
# Statements under a growing registry

A statement depends on the registry only through lookups that begin at the types of its key. Where
two registries agree on these types, and on all that is mentioned from there, the outcome is the
same: the same statement, or the same error.

Generators are built by classes, and a class could look up anything. Those that are always there
look up the component of the statement alone. Any other class answers alike over two registries in
which it finds the same components, so where the registries agree on all types, all classes do.
-/

namespace KeyedSql

open Outcome

/-- The class builds its generators from no part of a registry but the component of the
statement. -/
def GeneratorClass.ReadsOwnComponent (c : GeneratorClass) : Prop :=
  ∀ (site : GeneratorSite) (r : Registry),
    r.component site.component = site.registry.component site.component →
      c.build { site with registry := r } = c.build site

/-- The class builds its generators from no part of a registry but what can be looked up there. -/
def GeneratorClass.ReadsLookups (c : GeneratorClass) : Prop :=
  ∀ (site : GeneratorSite) (r : Registry), (∀ t, r.find? t = site.registry.find? t) →
    c.build { site with registry := r } = c.build site

/-- Over another registry, the classes of the environment build the same generators for statements
on the types in `P`. -/
def Environment.BuildsAlike (env : Environment) (P : ComponentType → Prop) (r : Registry) : Prop :=
  ∀ c ∈ env.classes, ∀ site : GeneratorSite, site.registry = env.registry → P site.component →
    c.build { site with registry := r } = c.build site

theorem GeneratorClass.readsOwnComponent_of_mem_builtins {c : GeneratorClass}
    (hc : c ∈ builtins) : c.ReadsOwnComponent := by
  intro site r hr
  rcases List.mem_pair.1 hc with rfl | rfl
  · rfl
  · unfold build sequence tableSequence
    dsimp only
    rw [hr]
    rfl

theorem GeneratorClass.ReadsOwnComponent.readsLookups {c : GeneratorClass}
    (hc : c.ReadsOwnComponent) : c.ReadsLookups := by
  intro site r hr
  refine hc site r ?_
  rw [Registry.component, Registry.component, hr]

/-- The environment over another registry. -/
def Environment.over (env : Environment) (r : Registry) : Environment :=
  { env with registry := r }

namespace Registry.AgreeOn

variable {P : ComponentType → Prop} {r s : Registry} {type : ComponentType}

/-! ## Columns -/

theorem pathSlots_eq (h : AgreeOn P r s) (htype : P type) (qualifier : Option String)
    (paths : List PropertyPath) :
    s.pathSlots type qualifier paths = r.pathSlots type qualifier paths := by
  rw [pathSlots, pathSlots, h.columnAt_eq htype]

theorem orderTerms_eq (h : AgreeOn P r s) (htype : P type) (qualifier : Option String)
    (orderBy : List OrderEntry) :
    s.orderTerms type qualifier orderBy = r.orderTerms type qualifier orderBy := by
  rw [orderTerms, orderTerms, h.columnAt_eq htype]

theorem pathColumns_eq (h : AgreeOn P r s) (htype : P type) (qualifier : String)
    (paths : List PropertyPath) :
    s.pathColumns type qualifier paths = r.pathColumns type qualifier paths := by
  rw [pathColumns, pathColumns, h.columnAt_eq htype]

theorem joinSource_eq (h : AgreeOn P r s) {target : Component} {search : JoinSearch}
    (htarget : P target.name) (hsource : P search.source) :
    s.joinSource target search = r.joinSource target search := by
  rw [joinSource, joinSource, h.component_eq hsource, h.pathColumns_eq hsource,
    h.pathColumns_eq htarget]

end Registry.AgreeOn

/-! ## Statements -/

namespace Environment

variable {P : ComponentType → Prop} {env : Environment} {r : Registry} {id : String}
  {type : ComponentType}

theorem registry_over (env : Environment) (r : Registry) : (env.over r).registry = r :=
  rfl

theorem writeCacheUse_over (env : Environment) (r : Registry) (type : ComponentType) :
    (env.over r).writeCacheUse type = env.writeCacheUse type :=
  rfl

theorem readCacheUse_over (h : env.registry.AgreeOn P r) (htype : P type) :
    (env.over r).readCacheUse type = env.readCacheUse type := by
  unfold readCacheUse
  rw [registry_over, h.reachable_eq htype]
  rfl

theorem rowShape_over (h : env.registry.AgreeOn P r) {c : Component} (hname : P c.name)
    (columns : List MappedColumn) : (env.over r).rowShape c columns = env.rowShape c columns := by
  unfold rowShape
  rw [registry_over, h.reachesLocalized_eq hname]

/-! ### Generators -/

theorem buildsAlike_of_readsOwnComponent (h : env.registry.AgreeOn P r)
    (hclasses : ∀ c ∈ env.classes, c.ReadsOwnComponent) : env.BuildsAlike P r := by
  intro c hc site hregistry htype
  refine hclasses c hc site r ?_
  rw [hregistry, h.component_eq htype]

theorem buildsAlike_of_readsLookups (hfind : ∀ t, r.find? t = env.registry.find? t)
    (hclasses : ∀ c ∈ env.classes, c.ReadsLookups) : env.BuildsAlike P r := by
  intro c hc site hregistry _
  refine hclasses c hc site r fun t => ?_
  rw [hregistry, hfind t]

theorem generatedKey_over (hclasses : env.BuildsAlike P r) {c : Component} (hname : P c.name) :
    (env.over r).generatedKey id c = env.generatedKey id c :=
  @generatedKey_congr env id (env.over r) rfl rfl c fun d hd property =>
    hclasses d hd (env.site id c.name property) rfl hname

/-! ### Compiling -/

theorem findStatement_over (h : env.registry.AgreeOn P r) {c : Component} (hname : P c.name)
    (plan : FindPlan) (cache : CacheUse) :
    (env.over r).findStatement id c plan cache = env.findStatement id c plan cache := by
  unfold findStatement
  simp only [registry_over, rowShape_over h hname, h.orderTerms_eq hname]

theorem insertStatement_over (h : env.registry.AgreeOn P r) (hclasses : env.BuildsAlike P r)
    (htype : P type) :
    (env.over r).insertStatement id type = env.insertStatement id type := by
  unfold insertStatement
  rw [registry_over]
  refine h.component_bind_congr htype fun c _ hname => ?_
  rw [generatedKey_over hclasses hname, writeCacheUse_over]

theorem updateStatement_over (h : env.registry.AgreeOn P r) (htype : P type)
    (nlsProperties : Option (List Identifier)) :
    (env.over r).updateStatement id type nlsProperties =
      env.updateStatement id type nlsProperties := by
  unfold updateStatement updateSql
  rw [registry_over, h.component_eq htype, writeCacheUse_over]

theorem deleteConditions_over (h : env.registry.AgreeOn P r) {c : Component} (hname : P c.name)
    (scope : DeleteScope) :
    (env.over r).deleteConditions c scope = env.deleteConditions c scope := by
  cases scope with
  | unchangedEntity | entity => rfl
  | matching properties => exact h.pathSlots_eq hname none properties

theorem deleteStatement_over (h : env.registry.AgreeOn P r) (htype : P type) (scope : DeleteScope) :
    (env.over r).deleteStatement id type scope = env.deleteStatement id type scope := by
  unfold deleteStatement
  rw [registry_over]
  refine h.component_bind_congr htype fun c _ hname => ?_
  rw [deleteConditions_over h hname, writeCacheUse_over]

theorem findByIdStatement_over (h : env.registry.AgreeOn P r) (htype : P type) :
    (env.over r).findByIdStatement id type = env.findByIdStatement id type := by
  unfold findByIdStatement
  rw [registry_over, readCacheUse_over h htype]
  refine h.component_bind_congr htype fun c _ hname => ?_
  simp only [findStatement_over h hname]

theorem findByStatement_over (h : env.registry.AgreeOn P r) (htype : P type)
    (properties : List PropertyPath) (orderBy : List OrderEntry) (ignoreCancel : Bool) :
    (env.over r).findByStatement id type properties orderBy ignoreCancel =
      env.findByStatement id type properties orderBy ignoreCancel := by
  unfold findByStatement
  rw [registry_over, readCacheUse_over h htype, h.pathSlots_eq htype]
  refine h.component_bind_congr htype fun c _ hname => ?_
  simp only [findStatement_over h hname]

theorem findByJoinStatement_over (h : env.registry.AgreeOn P r) (htype : P type)
    {search : JoinSearch} (hsource : P search.source) (orderBy : List OrderEntry)
    (ignoreCancel : Bool) :
    (env.over r).findByJoinStatement id type search orderBy ignoreCancel =
      env.findByJoinStatement id type search orderBy ignoreCancel := by
  unfold findByJoinStatement
  rw [registry_over, readCacheUse_over h htype, h.pathSlots_eq hsource]
  refine h.component_bind_congr htype fun c _ hname => ?_
  simp only [h.joinSource_eq hname hsource, findStatement_over h hname]

theorem localizedColumnStatement_over (h : env.registry.AgreeOn P r) (htype : P type)
    (property : Identifier) :
    (env.over r).localizedColumnStatement id type property =
      env.localizedColumnStatement id type property := by
  unfold localizedColumnStatement
  rw [registry_over, h.component_eq htype, readCacheUse_over h htype]

/-- Registries that agree on the types of a key give it the same outcome. -/
theorem statementOf_over (h : env.registry.AgreeOn P r) (hclasses : env.BuildsAlike P r)
    {key : StatementKey} (htypes : ∀ t ∈ key.types, P t) :
    (env.over r).statementOf id key = env.statementOf id key := by
  obtain ⟨type, request⟩ := key
  obtain ⟨htype, hothers⟩ := List.forall_mem_cons.1 htypes
  cases request with
  | insert => exact insertStatement_over h hclasses htype
  | update nlsProperties => exact updateStatement_over h htype nlsProperties
  | delete | deleteEntityById | deleteComponentsBy => exact deleteStatement_over h htype _
  | findEntityById => exact findByIdStatement_over h htype
  | findComponentsBy properties orderBy ignoreCancel =>
    exact findByStatement_over h htype properties orderBy ignoreCancel
  | findComponentsByJoinTable search orderBy ignoreCancel =>
    have hsource : P search.source := hothers _ (List.mem_cons_self ..)
    exact findByJoinStatement_over h htype hsource orderBy ignoreCancel
  | findNlsColumn property => exact localizedColumnStatement_over h htype property

end Environment

namespace StatementFactory

variable {env : Environment} {key : String}

section Over

variable {P : ComponentType → Prop} {r : Registry}

theorem dispatch_over_of_buildsAlike (h : env.registry.AgreeOn P r)
    (hclasses : env.BuildsAlike P r)
    (hkey : ∀ k, StatementKey.ofText key = .ok k → ∀ t ∈ k.types, P t) :
    dispatch defaults (env.over r) key = dispatch defaults env key := by
  rw [dispatch_defaults, dispatch_defaults]
  refine bind_congr_of_ok fun k hk => ?_
  rw [Environment.statementOf_over h hclasses (hkey k hk)]

theorem dispatch_over (h : env.registry.AgreeOn P r)
    (hclasses : ∀ c ∈ env.classes, c.ReadsOwnComponent)
    (hkey : ∀ k, StatementKey.ofText key = .ok k → ∀ t ∈ k.types, P t) :
    dispatch defaults (env.over r) key = dispatch defaults env key :=
  dispatch_over_of_buildsAlike h (Environment.buildsAlike_of_readsOwnComponent h hclasses) hkey

/-- Registries in which the same components are found give every key the same outcome. -/
theorem dispatch_over_of_find? (hfind : ∀ t, r.find? t = env.registry.find? t)
    (hclasses : ∀ c ∈ env.classes, c.ReadsLookups) :
    dispatch defaults (env.over r) key = dispatch defaults env key :=
  dispatch_over_of_buildsAlike (Registry.agreeOn_of_find? hfind)
    (Environment.buildsAlike_of_readsLookups hfind hclasses) fun _ _ _ _ => trivial

end Over

/-- A new component that no other mentions changes nothing for keys and links of other types. -/
theorem dispatch_of_register {d : Component} (hnew : env.registry.contains d.name = false)
    (hmentions : ∀ c ∈ env.registry.components, d.name ∉ c.mentions)
    (hclasses : env.classes = GeneratorClass.builtins) :
    ∃ r, env.registry.register d = .ok r ∧
      (∀ key, (∀ k, StatementKey.ofText key = .ok k → d.name ∉ k.types) →
        dispatch defaults (env.over r) key = dispatch defaults env key) ∧
      ∀ type, type ≠ d.name →
        r.reachable type = env.registry.reachable type ∧
          r.reachesLocalized type = env.registry.reachesLocalized type := by
  obtain ⟨r, hr⟩ : ∃ r, env.registry.register d = .ok r :=
    Registry.exists_register_eq_ok_iff.2 hnew
  have hagree := Registry.agreeOn_of_register hr hmentions
  have hbuiltins : ∀ c ∈ env.classes, c.ReadsOwnComponent := fun c hc =>
    GeneratorClass.readsOwnComponent_of_mem_builtins (hclasses ▸ hc)
  refine ⟨r, hr, fun key hkey => ?_, fun type htype => ?_⟩
  · exact dispatch_over hagree hbuiltins fun k hk t ht hname => hkey k hk (hname ▸ ht)
  · exact ⟨hagree.reachable_eq htype, hagree.reachesLocalized_eq htype⟩

end StatementFactory

/-- Tunnels, which are linked to trains. -/
def Component.tunnel : Component where
  name := ⟨"a.Tunnel", by decide⟩
  table := some "TUNNEL"
  cacheLinks := [Component.train.name]
  properties := []

/-- Trains do not mention tunnels, so that the finder of trains stays as it is. -/
theorem StatementFactory.dispatch_of_register_railway :
    ∃ r, Environment.railway.registry.register .tunnel = .ok r ∧
      r.reachable Component.train.name = .ok [] ∧
      r.reachesLocalized Component.train.name = .ok true ∧
      (dispatch defaults (Environment.railway.over r) "a.Train/findEntityById").map (·.text) =
        .ok "SELECT t.ID, t.CODE, t.LABEL, t.VERSION FROM TRAIN t WHERE t.ID = ?1" := by
  obtain ⟨r, hr, hdispatch, hlinks⟩ :=
    @dispatch_of_register .railway .tunnel (by decide) (by decide) rfl
  have hkey : StatementKey.ofText "a.Train/findEntityById" =
      .ok ⟨Component.train.name, .findEntityById⟩ := by
    decide +kernel
  have htypes : ∀ k, StatementKey.ofText "a.Train/findEntityById" = .ok k →
      Component.tunnel.name ∉ k.types := by
    intro k hk
    obtain rfl := Except.ok.inj (hkey.symm.trans hk)
    decide
  obtain ⟨hreachable, hlocalized⟩ := hlinks Component.train.name (by decide)
  refine ⟨r, hr, ?_⟩
  rw [hdispatch _ htypes, hreachable, hlocalized]
  decide +kernel

end KeyedSql
