import KeyedSql.Proofs.Compile.Dispatch
import KeyedSql.Proofs.Links.Closure

/-!
# The part of statements in caching

A write flushes the cache of its component, and a read stays in it until a component of the link
closure changes. `CacheUse.IsFor` says this without the statement, and every statement that is
compiled has the part that belongs to its key.

That nothing but registered components makes a read stale rests on two facts of other modules: the
closure follows each type that it reaches, and the source of a chain of joins is looked up.
-/

namespace KeyedSql

open Outcome Relation

/-- Gives components a cache, one after the other. -/
def Environment.addCaches (env : Environment) (types : List ComponentType) : Environment :=
  types.foldl addCache env

/-- The part in caching of a key: a write makes nothing stale, a read is stale after changes of what
links lead to and of its other component. -/
structure CacheUse.IsFor (env : Environment) (key : StatementKey) (use : CacheUse) : Prop where
  used : use.used = true
  flushed : use.flushed = key.operation.isWrite
  cache : use.cache = env.cache? key.component
  ofWrite : key.operation.isWrite = true → use.invalidatedBy = []
  ofRead : key.operation.isWrite = false →
    ∃ links, env.registry.reachable key.component = .ok links ∧
      use.invalidatedBy.Pairwise (fun a b => a.text < b.text) ∧
        ∀ t, t ∈ use.invalidatedBy ↔ t ∈ links ∨ t ∈ key.types ∧ t ≠ key.component

/-! ## Registered caches -/

theorem Environment.registry_addCaches (env : Environment) (types : List ComponentType) :
    (env.addCaches types).registry = env.registry := by
  unfold addCaches
  induction types generalizing env with
  | nil => rfl
  | cons type types ih =>
    have hone : (env.addCache type).registry = env.registry := by
      unfold addCache
      split <;> rfl
    rw [List.foldl_cons, ih, hone]

theorem Environment.mem_caches_addCaches {env : Environment} {types : List ComponentType}
    {c : ComponentType} : c ∈ (env.addCaches types).caches ↔ c ∈ env.caches ∨ c ∈ types := by
  unfold addCaches
  induction types generalizing env with
  | nil => simp
  | cons type types ih => rw [List.foldl_cons, ih, mem_caches_addCache, List.mem_cons, or_assoc]

/-! ## Reads and writes -/

theorem StatementKey.mem_types_iff {key : StatementKey} {t : ComponentType} :
    t ∈ key.types ↔ t = key.component ∨
      ∃ search orderBy ignoreCancel,
        key.request = .findComponentsByJoinTable search orderBy ignoreCancel ∧
          search.source = t := by
  obtain ⟨type, request⟩ := key
  cases request <;> simp [types, eq_comm]

theorem CacheUse.mem_invalidatedAlsoBy_iff {use : CacheUse} {c t : ComponentType} :
    t ∈ (use.invalidatedAlsoBy c).invalidatedBy ↔ t ∈ use.invalidatedBy ∨ t = c := by
  unfold invalidatedAlsoBy
  split
  · rename_i hmem
    exact ⟨.inl, fun h => h.elim id fun h => h ▸ hmem⟩
  · rw [ComponentType.mem_sort, List.mem_cons, or_comm]

theorem CacheUse.invalidatedAlsoBy_eq (use : CacheUse) (c : ComponentType) :
    use.invalidatedAlsoBy c =
      { use with invalidatedBy := (use.invalidatedAlsoBy c).invalidatedBy } := by
  unfold invalidatedAlsoBy
  split <;> rfl

theorem CacheUse.pairwise_invalidatedAlsoBy {use : CacheUse} {c : ComponentType}
    (h : use.invalidatedBy.Pairwise fun a b => a.text < b.text) :
    (use.invalidatedAlsoBy c).invalidatedBy.Pairwise fun a b => a.text < b.text := by
  unfold invalidatedAlsoBy
  split
  · exact h
  · rename_i hnew
    have hnodup : use.invalidatedBy.Nodup := by
      refine h.imp fun {a b} hlt heq => ?_
      exact String.lt_irrefl _ (heq ▸ hlt)
    exact ComponentType.sort_pairwise_lt (List.nodup_cons.2 ⟨hnew, hnodup⟩)

namespace Environment

variable {env : Environment} {id : String} {s : Statement}

theorem isFor_writeCacheUse {key : StatementKey} (hwrite : key.operation.isWrite = true) :
    (env.writeCacheUse key.component).IsFor env key where
  used := rfl
  flushed := hwrite.symm
  cache := rfl
  ofWrite _ := rfl
  ofRead hread := by
    rw [hwrite] at hread
    cases hread

theorem readCacheUse_eq_ok_iff {type : ComponentType} {use : CacheUse} :
    env.readCacheUse type = .ok use ↔
      ∃ links, env.registry.reachable type = .ok links ∧
        CacheUse.mk true false (env.cache? type) links = use := by
  simp only [readCacheUse, bind_eq_ok_iff, pure_eq_ok_iff]

/-- What a read has besides the types that make it stale is the same for every read. -/
theorem isFor_of_read {key : StatementKey} {links invalidatedBy : List ComponentType}
    (hread : key.operation.isWrite = false)
    (hlinks : env.registry.reachable key.component = .ok links)
    (hsorted : invalidatedBy.Pairwise fun a b => a.text < b.text)
    (hmem : ∀ t, t ∈ invalidatedBy ↔ t ∈ links ∨ t ∈ key.types ∧ t ≠ key.component) :
    (CacheUse.mk true false (env.cache? key.component) invalidatedBy).IsFor env key where
  used := rfl
  flushed := hread.symm
  cache := rfl
  ofWrite hwrite := by
    rw [hread] at hwrite
    cases hwrite
  ofRead _ := ⟨links, hlinks, hsorted, hmem⟩

/-- A read whose key names no other component has the part of its component. -/
theorem isFor_readCacheUse {key : StatementKey} {use : CacheUse}
    (hread : key.operation.isWrite = false) (htypes : key.types = [key.component])
    (h : env.readCacheUse key.component = .ok use) : use.IsFor env key := by
  obtain ⟨links, hlinks, rfl⟩ := readCacheUse_eq_ok_iff.1 h
  have hsorted := (Registry.reachable_eq_ok_iff.1 hlinks).2.1
  refine isFor_of_read hread hlinks hsorted fun t => ?_
  rw [htypes, List.mem_singleton, and_not_self_iff, or_false]

/-- Changes of the source of a chain of joins make a read stale too. -/
theorem isFor_invalidatedAlsoBy {key : StatementKey} {use : CacheUse} {source : ComponentType}
    (hread : key.operation.isWrite = false) (htypes : key.types = [key.component, source])
    (h : env.readCacheUse key.component = .ok use) :
    (if source = key.component then use else use.invalidatedAlsoBy source).IsFor env key := by
  obtain ⟨links, hlinks, rfl⟩ := readCacheUse_eq_ok_iff.1 h
  have hsorted := (Registry.reachable_eq_ok_iff.1 hlinks).2.1
  have htypes : ∀ t, t ∈ key.types ∧ t ≠ key.component ↔ t = source ∧ t ≠ key.component := by
    intro t
    rw [htypes, List.mem_cons, List.mem_singleton]
    tauto
  split_ifs with hsource
  · refine isFor_of_read hread hlinks hsorted fun t => ?_
    rw [htypes, hsource, and_not_self_iff, or_false]
  · rw [CacheUse.invalidatedAlsoBy_eq]
    refine isFor_of_read hread hlinks (CacheUse.pairwise_invalidatedAlsoBy hsorted) fun t => ?_
    rw [CacheUse.mem_invalidatedAlsoBy_iff, htypes, and_iff_left_of_imp fun h => h ▸ hsource]

theorem command_of_updateSql {type : ComponentType} {nlsProperties : List Identifier} {sql : Sql}
    (h : env.updateSql type nlsProperties = .ok sql) : sql.command = .update := by
  obtain ⟨c, table, identity, version, plain, localized, -, -, -, -, -, -, -, rfl⟩ :=
    updateSql_eq_ok_iff.1 h
  rfl

theorem cache_of_findStatement {c : Component} {plan : FindPlan} {cache : CacheUse}
    (h : env.findStatement id c plan cache = .ok s) :
    s.cache = cache ∧ s.sql.command = .select := by
  obtain ⟨cancelled, columns, shape, order, -, -, -, -, rfl⟩ := findStatement_eq_ok_iff.1 h
  exact ⟨rfl, rfl⟩

/-- A statement writes exactly when its operation does, and has the part in caching of its key. -/
theorem isFor_cache_of_statementOf {key : StatementKey} (h : env.statementOf id key = .ok s) :
    s.isWrite = key.operation.isWrite ∧ s.cache.IsFor env key := by
  obtain ⟨type, request⟩ := key
  cases request with
  | insert =>
    obtain ⟨c, table, columns, generation, -, -, -, -, rfl⟩ := insertStatement_eq_ok_iff.1 h
    exact ⟨rfl, isFor_writeCacheUse rfl⟩
  | update nlsProperties =>
    obtain ⟨sql, hsql, rfl⟩ := updateStatement_eq_ok_iff.1 h
    refine ⟨?_, isFor_writeCacheUse rfl⟩
    rw [Statement.isWrite, Statement.ofWrite, command_of_updateSql hsql]
    rfl
  | delete | deleteEntityById | deleteComponentsBy =>
    obtain ⟨c, table, conditions, -, -, -, rfl⟩ := deleteStatement_eq_ok_iff.1 h
    exact ⟨rfl, isFor_writeCacheUse rfl⟩
  | findEntityById =>
    obtain ⟨c, use, identity, source, -, huse, -, -, hfind⟩ := findByIdStatement_eq_ok_iff.1 h
    obtain ⟨hcache, hcommand⟩ := cache_of_findStatement hfind
    rw [Statement.isWrite, hcommand, hcache]
    exact ⟨rfl, isFor_readCacheUse rfl rfl huse⟩
  | findComponentsBy properties orderBy ignoreCancel =>
    obtain ⟨c, use, slots, source, -, huse, -, -, hfind⟩ := findByStatement_eq_ok_iff.1 h
    obtain ⟨hcache, hcommand⟩ := cache_of_findStatement hfind
    rw [Statement.isWrite, hcommand, hcache]
    exact ⟨rfl, isFor_readCacheUse rfl rfl huse⟩
  | findComponentsByJoinTable search orderBy ignoreCancel =>
    obtain ⟨c, use, source, slots, -, huse, -, -, hfind⟩ := findByJoinStatement_eq_ok_iff.1 h
    obtain ⟨hcache, hcommand⟩ := cache_of_findStatement hfind
    rw [Statement.isWrite, hcommand, hcache]
    exact ⟨rfl, isFor_invalidatedAlsoBy rfl rfl huse⟩
  | findNlsColumn property =>
    obtain ⟨c, table, p, column, identity, use, -, -, -, -, -, huse, rfl⟩ :=
      localizedColumnStatement_eq_ok_iff.1 h
    exact ⟨rfl, isFor_readCacheUse rfl rfl huse⟩

/-- Only changes of other registered components make a statement stale. -/
theorem mem_invalidatedBy_of_statementOf {key : StatementKey} (h : env.statementOf id key = .ok s)
    {t : ComponentType} (ht : t ∈ s.cache.invalidatedBy) :
    t ≠ key.component ∧ env.registry.contains t = true := by
  obtain ⟨-, hcache⟩ := isFor_cache_of_statementOf h
  cases hwrite : key.operation.isWrite with
  | true =>
    rw [hcache.ofWrite hwrite] at ht
    cases ht
  | false =>
    obtain ⟨links, hlinks, -, hmem⟩ := hcache.ofRead hwrite
    obtain ⟨hfollowable, -, hreached⟩ := Registry.reachable_eq_ok_iff.1 hlinks
    rcases (hmem t).1 ht with ht | ⟨ht, hne⟩
    · obtain ⟨ht, hne⟩ := (hreached t).1 ht
      exact ⟨hne, hfollowable.contains t ht⟩
    · obtain ⟨c, -, hc, -⟩ := hasTable_of_statementOf h t ht
      refine ⟨hne, ?_⟩
      rw [Registry.contains, hc]
      rfl

end Environment

namespace StatementFactory

variable {env : Environment} {key : String} {s : Statement}

/-- Statements use the cache of their component; writes flush it, and changes of linked components
make reads stale. -/
theorem caching_of_dispatch {types : List ComponentType}
    (h : dispatch defaults (env.addCaches types) key = .ok s) :
    ∃ k : StatementKey, k.WellFormed ∧ k.text = key ∧
      s.cache.used = true ∧
      s.isWrite = k.operation.isWrite ∧
      s.cache.flushed = s.isWrite ∧
      (∀ c, s.cache.cache = some c ↔
        (k.component ∈ env.caches ∨ k.component ∈ types) ∧ c = k.component) ∧
      (s.isWrite = true → s.cache.invalidatedBy = []) ∧
      (s.isWrite = false → ∃ links, env.registry.reachable k.component = .ok links ∧
        s.cache.invalidatedBy.Pairwise (fun a b => a.text < b.text) ∧
        ∀ t, t ∈ s.cache.invalidatedBy ↔ t ∈ links ∨
          ∃ search orderBy ignoreCancel,
            k.request = .findComponentsByJoinTable search orderBy ignoreCancel ∧
              search.source = t ∧ t ≠ k.component) ∧
      ∀ t ∈ s.cache.invalidatedBy, t ≠ k.component ∧ env.registry.contains t = true := by
  obtain ⟨k, hwf, htext, hstatement⟩ := dispatch_defaults_eq_ok_iff.1 h
  obtain ⟨hwrite, hcache⟩ := Environment.isFor_cache_of_statementOf hstatement
  refine ⟨k, hwf, htext, hcache.used, hwrite, hcache.flushed.trans hwrite.symm, fun c => ?_, ?_, ?_,
    fun t ht => ?_⟩
  · rw [hcache.cache, Environment.cache?_eq_some_iff, Environment.mem_caches_addCaches]
  · exact fun h => hcache.ofWrite (hwrite ▸ h)
  · intro hread
    obtain ⟨links, hlinks, hsorted, hmem⟩ := hcache.ofRead (hwrite ▸ hread)
    rw [Environment.registry_addCaches] at hlinks
    refine ⟨links, hlinks, hsorted, fun t => (hmem t).trans (or_congr_right ?_)⟩
    rw [StatementKey.mem_types_iff]
    constructor
    · rintro ⟨rfl | ⟨search, orderBy, ignoreCancel, hrequest, rfl⟩, hne⟩
      · exact absurd rfl hne
      · exact ⟨search, orderBy, ignoreCancel, hrequest, rfl, hne⟩
    · rintro ⟨search, orderBy, ignoreCancel, hrequest, hsource, hne⟩
      exact ⟨.inr ⟨search, orderBy, ignoreCancel, hrequest, hsource⟩, hne⟩
  · have hmem := Environment.mem_invalidatedBy_of_statementOf hstatement ht
    rwa [Environment.registry_addCaches] at hmem

/-- A join uses the cache of its target, and its source makes it stale. -/
theorem caching_of_dispatch_railway :
    ∃ s, dispatch defaults
        (Environment.railway.addCaches [Component.wagon.name, Component.train.name])
        ("a.Wagon/findComponentsByJoinTable?sourceComponent=a.Train" ++
          "&sourceProperties=code&targetProperties=id&join=T_W;TRAIN;WAGON") = .ok s ∧
      s.cache.flushed = false ∧
      s.cache.cache = some Component.wagon.name ∧
      Environment.railway.registry.reachable Component.wagon.name = .ok [] ∧
      s.cache.invalidatedBy = [Component.train.name] ∧
      Component.train.name ≠ Component.wagon.name ∧
      Environment.railway.registry.contains Component.train.name = true := by
  have hcompiled : (dispatch defaults
      (Environment.railway.addCaches [Component.wagon.name, Component.train.name])
      ("a.Wagon/findComponentsByJoinTable?sourceComponent=a.Train" ++
        "&sourceProperties=code&targetProperties=id&join=T_W;TRAIN;WAGON")).map (·.cache) =
      .ok ⟨true, false, some Component.wagon.name, [Component.train.name]⟩ := by
    decide +kernel
  have hreachable : Environment.railway.registry.reachable Component.wagon.name = .ok [] := by
    decide +kernel
  obtain ⟨s, hs, hcache⟩ := map_eq_ok_iff.1 hcompiled
  obtain ⟨k, -, -, -, -, -, hown, -, -, hmembers⟩ := caching_of_dispatch hs
  obtain ⟨-, hcomponent⟩ := (hown Component.wagon.name).1 (by rw [hcache])
  have htrain : Component.train.name ∈ s.cache.invalidatedBy := by
    rw [hcache]
    exact List.mem_singleton.2 rfl
  obtain ⟨hne, hcontains⟩ := hmembers _ htrain
  refine ⟨s, hs, ?_, ?_, hreachable, ?_, hcomponent ▸ hne, hcontains⟩ <;> rw [hcache]

end StatementFactory

end KeyedSql
