import KeyedSql.Proofs.Compile.Caching
import KeyedSql.Proofs.Compile.Generators
import Mathlib.Data.List.Nodup

/-!
# The order of caches

Which components have a cache shows in a statement only as the cache of the component of its key,
unless a generator class looks at the caches, which none that is always there does. So environments
that differ in the order of their caches, or in how often a cache was asked for, cannot be told
apart.
-/

namespace KeyedSql

open Outcome StatementFactory

namespace GeneratorClass

/-- The class builds the same generators whichever components have a cache. -/
def IgnoresCaches (c : GeneratorClass) : Prop :=
  ∀ (site : GeneratorSite) (cs : List ComponentType),
    c.build { site with caches := cs } = c.build site

theorem ignoresCaches_of_mem_builtins {c : GeneratorClass} (hc : c ∈ builtins) :
    c.IgnoresCaches := by
  intro site cs
  rcases List.mem_pair.1 hc with rfl | rfl <;> rfl

end GeneratorClass

namespace Environment

variable {env : Environment} {cs ds : List ComponentType} {id : String} {type : ComponentType}

/-- The environment with other caches. -/
def withCaches (env : Environment) (cs : List ComponentType) : Environment :=
  { env with caches := cs }

/-- Two environments cannot be told apart: they have the same components, classes, caches and named
generators, and they give every key the same outcome. -/
structure ActsSame (env env' : Environment) : Prop where
  registry_eq : env'.registry = env.registry
  classes_eq : env'.classes = env.classes
  generators_eq : env'.generators = env.generators
  issued_eq : env'.issued = env.issued
  caches_perm : env'.caches.Perm env.caches
  cache?_eq : ∀ c, env'.cache? c = env.cache? c
  dispatch_eq : ∀ key, dispatch defaults env' key = dispatch defaults env key

/-! ## Caches that are added -/

theorem addCaches_eq_withCaches (env : Environment) (cs : List ComponentType) :
    env.addCaches cs = env.withCaches (env.addCaches cs).caches := by
  unfold addCaches
  induction cs generalizing env with
  | nil => rfl
  | cons c cs ih =>
    have hone : env.addCache c = env.withCaches (env.addCache c).caches := by
      unfold addCache
      split <;> rfl
    rw [List.foldl_cons, ih, hone]
    rfl

theorem nodup_caches_addCache (h : env.caches.Nodup) (c : ComponentType) :
    (env.addCache c).caches.Nodup := by
  unfold addCache
  split
  · exact h
  · rename_i hnew
    exact List.Nodup.append h (List.nodup_singleton c) (List.disjoint_singleton.2 hnew)

theorem nodup_caches_addCaches (h : env.caches.Nodup) : (env.addCaches cs).caches.Nodup := by
  unfold addCaches
  induction cs generalizing env with
  | nil => exact h
  | cons c cs ih => exact ih (nodup_caches_addCache h c)

/-- The caches that are asked for are the same, whatever the order and however often. -/
theorem perm_caches_addCaches (h : env.caches.Nodup) (hmem : ∀ c, c ∈ ds ↔ c ∈ cs) :
    (env.addCaches ds).caches.Perm (env.addCaches cs).caches := by
  refine (List.perm_ext_iff_of_nodup (nodup_caches_addCaches h) (nodup_caches_addCaches h)).2
    fun c => ?_
  rw [mem_caches_addCaches, mem_caches_addCaches, hmem]

/-! ## Statements -/

theorem cache?_eq_of_perm {env' : Environment} (h : env'.caches.Perm env.caches)
    (c : ComponentType) : env'.cache? c = env.cache? c := by
  ext d
  rw [cache?_eq_some_iff, cache?_eq_some_iff, h.mem_iff]

section WithCaches

variable (hcache : ∀ c, (env.withCaches cs).cache? c = env.cache? c)

include hcache

theorem writeCacheUse_withCaches :
    (env.withCaches cs).writeCacheUse type = env.writeCacheUse type := by
  unfold writeCacheUse
  rw [hcache]

theorem readCacheUse_withCaches :
    (env.withCaches cs).readCacheUse type = env.readCacheUse type := by
  unfold readCacheUse
  rw [hcache]
  rfl

variable (hclasses : ∀ c ∈ env.classes, c.IgnoresCaches)

include hclasses

/-- A statement reads the caches of an environment only for its part in caching. -/
theorem statementOf_withCaches (key : StatementKey) :
    (env.withCaches cs).statementOf id key = env.statementOf id key := by
  obtain ⟨type, request⟩ := key
  cases request with
  | insert =>
    have hgenerated : ∀ c, (env.withCaches cs).generatedKey id c = env.generatedKey id c := fun c =>
      @generatedKey_congr env id (env.withCaches cs) rfl rfl c fun d hd property =>
        hclasses d hd (env.site id c.name property) cs
    show insertStatement _ id type = insertStatement _ id type
    unfold insertStatement
    simp only [writeCacheUse_withCaches hcache, hgenerated]
    rfl
  | update nlsProperties =>
    show updateStatement _ id type nlsProperties = updateStatement _ id type nlsProperties
    unfold updateStatement
    rw [writeCacheUse_withCaches hcache]
    rfl
  | delete | deleteEntityById | deleteComponentsBy =>
    show deleteStatement _ id type _ = deleteStatement _ id type _
    unfold deleteStatement
    rw [writeCacheUse_withCaches hcache]
    rfl
  | findEntityById =>
    show findByIdStatement _ id type = findByIdStatement _ id type
    unfold findByIdStatement
    rw [readCacheUse_withCaches hcache]
    rfl
  | findComponentsBy properties orderBy ignoreCancel =>
    show findByStatement _ id type properties orderBy ignoreCancel =
      findByStatement _ id type properties orderBy ignoreCancel
    unfold findByStatement
    rw [readCacheUse_withCaches hcache]
    rfl
  | findComponentsByJoinTable search orderBy ignoreCancel =>
    show findByJoinStatement _ id type search orderBy ignoreCancel =
      findByJoinStatement _ id type search orderBy ignoreCancel
    unfold findByJoinStatement
    rw [readCacheUse_withCaches hcache]
    rfl
  | findNlsColumn property =>
    show localizedColumnStatement _ id type property = localizedColumnStatement _ id type property
    unfold localizedColumnStatement
    rw [readCacheUse_withCaches hcache]
    rfl

theorem dispatch_withCaches (key : String) :
    dispatch defaults (env.withCaches cs) key = dispatch defaults env key := by
  rw [dispatch_defaults, dispatch_defaults]
  refine bind_congr_of_ok fun k _ => ?_
  rw [statementOf_withCaches hcache hclasses]

end WithCaches

theorem actsSame_withCaches (hclasses : ∀ c ∈ env.classes, c.IgnoresCaches)
    (h : cs.Perm env.caches) : env.ActsSame (env.withCaches cs) where
  registry_eq := rfl
  classes_eq := rfl
  generators_eq := rfl
  issued_eq := rfl
  caches_perm := h
  cache?_eq := cache?_eq_of_perm h
  dispatch_eq := dispatch_withCaches (cache?_eq_of_perm h) hclasses

end Environment

end KeyedSql
