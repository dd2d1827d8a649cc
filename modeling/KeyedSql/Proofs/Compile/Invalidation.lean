import KeyedSql.Proofs.Compile.Caching

/-!
# Paths and stale reads

A path is resolved through the first property of each name and through associations without a
collection, while links follow every property and look at the association first. Each step of a path
is a link nevertheless, so a path stays within the link closure of the component where it begins,
and the components that it comes through make the read stale.
-/

namespace KeyedSql

open Outcome Relation

/-- The paths that begin at the component whose rows a request reads. -/
def Request.targetPaths : Request → List PropertyPath
  | .findComponentsBy properties orderBy _ => properties ++ orderBy.map (·.property)
  | .findComponentsByJoinTable search orderBy _ =>
    search.targetProperties ++ orderBy.map (·.property)
  | .findEntityById | .insert | .update _ | .delete | .deleteEntityById | .deleteComponentsBy _
  | .findNlsColumn _ => []

namespace Registry

variable {r : Registry} {type : ComponentType}

/-- After some number of its leading segments, the path comes through the component; after all of
them, that is the owner of the last one. -/
def Visits (r : Registry) (type : ComponentType) (path : PropertyPath) (c : Component) : Prop :=
  ∃ start segments, r.component type = .ok start ∧ segments <+: path.leading ∧
    r.walk (.notAnAssociation type path) start segments = .ok c

/-! ## Steps of a path -/

theorem linksTo_of_associated? {owner next : Component} {p : Property}
    (howner : owner ∈ r.components) (hp : p ∈ owner.properties)
    (h : r.associated? p = some next) : r.LinksTo owner.name next.name := by
  obtain ⟨htarget, hcontains⟩ := target_of_associated? h
  have hleads : p.LeadsTo next.name := Property.leadsTo_of_associationTarget? htarget
  exact .inr ⟨owner, howner, rfl, ⟨p, hp, hleads⟩, hcontains⟩

/-- A walk follows links, whatever the segments are: around a cycle as often as they say. -/
theorem reflTransGen_linksTo_of_walk {refused : Identifier → ConfigError}
    {segments : List Identifier} {owner last : Component} (howner : owner ∈ r.components)
    (h : r.walk refused owner segments = .ok last) :
    ReflTransGen r.LinksTo owner.name last.name := by
  induction segments generalizing owner with
  | nil =>
    cases h
    exact .refl
  | cons segment segments ih =>
    obtain ⟨p, next, hp, hnext, hrest⟩ := walk_cons_eq_ok_iff.1 h
    have hlink := linksTo_of_associated? howner (Component.mem_properties_of_find? hp) hnext
    exact .head hlink (ih (mem_of_associated? hnext) hrest)

theorem Visits.reflTransGen {path : PropertyPath} {c : Component} (h : r.Visits type path c) :
    ReflTransGen r.LinksTo type c.name := by
  obtain ⟨start, segments, hstart, -, hwalk⟩ := h
  rw [← name_of_component hstart]
  exact reflTransGen_linksTo_of_walk (mem_of_component hstart) hwalk

/-- A column at the end of a path belongs to a property, whose owner the path visits. -/
theorem exists_visits_of_columnAt {path : PropertyPath} {column : MappedColumn}
    (h : r.columnAt type path = .ok column) :
    ∃ target, r.propertyAt type path = .ok target ∧ r.Visits type path target.owner := by
  obtain ⟨target, htarget, -⟩ := bind_eq_ok_iff.1 h
  obtain ⟨start, hstart, howner, -⟩ := propertyAt_eq_ok_iff.1 htarget
  exact ⟨target, htarget, start, path.leading, hstart, List.prefix_rfl, howner⟩

end Registry

/-! ## Paths of a statement -/

section Columns

variable {qualifier : Option String}

theorem Registry.exists_columnAt_of_pathSlots {r : Registry} {type : ComponentType}
    {paths : List PropertyPath} {slots : List Slot}
    (h : r.pathSlots type qualifier paths = .ok slots) :
    ∀ path ∈ paths, ∃ column, r.columnAt type path = .ok column :=
  exists_of_mapM_return_eq_ok h

theorem Registry.exists_columnAt_of_pathColumns {r : Registry} {type : ComponentType}
    {qualifier : String} {paths : List PropertyPath} {columns : List ColumnName}
    (h : r.pathColumns type qualifier paths = .ok columns) :
    ∀ path ∈ paths, ∃ column, r.columnAt type path = .ok column :=
  exists_of_mapM_return_eq_ok h

theorem Registry.exists_columnAt_of_orderTerms {r : Registry} {type : ComponentType}
    {orderBy : List OrderEntry} {terms : List OrderTerm}
    (h : r.orderTerms type qualifier orderBy = .ok terms) :
    ∀ path ∈ orderBy.map (·.property), ∃ column, r.columnAt type path = .ok column :=
  List.forall_mem_map.2 (exists_of_mapM_return_eq_ok h)

end Columns

namespace Environment

variable {env : Environment} {id : String} {s : Statement}

theorem exists_columnAt_of_findStatement {type : ComponentType} {c : Component} {plan : FindPlan}
    {cache : CacheUse} (hc : env.registry.component type = .ok c)
    (h : env.findStatement id c plan cache = .ok s) :
    ∀ path ∈ plan.orderBy.map (·.property),
      ∃ column, env.registry.columnAt type path = .ok column := by
  obtain ⟨cancelled, columns, shape, order, -, -, -, horder, -⟩ := findStatement_eq_ok_iff.1 h
  rw [Registry.name_of_component hc] at horder
  exact Registry.exists_columnAt_of_orderTerms horder

/-- The paths that begin at the component of a compiled key are resolved from there. -/
theorem exists_columnAt_of_statementOf {key : StatementKey} (h : env.statementOf id key = .ok s) :
    ∀ path ∈ key.request.targetPaths,
      ∃ column, env.registry.columnAt key.component path = .ok column := by
  obtain ⟨type, request⟩ := key
  cases request with
  | findComponentsBy properties orderBy ignoreCancel =>
    obtain ⟨c, use, slots, source, hc, -, hslots, -, hfind⟩ := findByStatement_eq_ok_iff.1 h
    have horder := exists_columnAt_of_findStatement hc hfind
    exact List.forall_mem_append.2 ⟨Registry.exists_columnAt_of_pathSlots hslots, horder⟩
  | findComponentsByJoinTable search orderBy ignoreCancel =>
    obtain ⟨c, use, source, slots, hc, -, hsource, -, hfind⟩ := findByJoinStatement_eq_ok_iff.1 h
    obtain ⟨start, sourceTable, targetTable, columns, joins, columns', pairs, -, -, -, -, -,
      hcolumns, -, -⟩ := Registry.joinSource_eq_ok_iff.1 hsource
    rw [Registry.name_of_component hc] at hcolumns
    have horder := exists_columnAt_of_findStatement hc hfind
    exact List.forall_mem_append.2 ⟨Registry.exists_columnAt_of_pathColumns hcolumns, horder⟩
  | findEntityById | insert | update | delete | deleteEntityById | deleteComponentsBy
  | findNlsColumn => exact fun path hpath => absurd hpath List.not_mem_nil

/-- A read is made stale by every component that a path from its own comes through. -/
theorem mem_invalidatedBy_of_visits {key : StatementKey} (h : env.statementOf id key = .ok s)
    (hread : key.operation.isWrite = false) {path : PropertyPath} {c : Component}
    (hvisits : env.registry.Visits key.component path c) :
    c.name = key.component ∨ c.name ∈ s.cache.invalidatedBy := by
  obtain ⟨-, hcache⟩ := isFor_cache_of_statementOf h
  obtain ⟨links, hlinks, -, hmem⟩ := hcache.ofRead hread
  refine or_iff_not_imp_left.2 fun hne => (hmem c.name).2 (.inl ?_)
  refine ((Registry.reachable_eq_ok_iff.1 hlinks).2.2 c.name).2 ⟨?_, hne⟩
  exact (reflTransGen_iff_eq_or_transGen.1 hvisits.reflTransGen).resolve_left hne

end Environment

/-! ## Stale reads -/

namespace StatementFactory

variable {env : Environment} {key : String} {s : Statement}

/-- A read becomes stale with every component that its paths visit. -/
theorem invalidatedBy_of_dispatch (h : dispatch defaults env key = .ok s) :
    ∃ k : StatementKey, k.WellFormed ∧ k.text = key ∧
      (∀ path ∈ k.request.targetPaths, ∃ target,
        env.registry.propertyAt k.component path = .ok target ∧
          env.registry.Visits k.component path target.owner) ∧
      (k.operation.isWrite = false → ∀ path c, env.registry.Visits k.component path c →
        c.name = k.component ∨ c.name ∈ s.cache.invalidatedBy) := by
  obtain ⟨k, hwf, htext, hstatement⟩ := dispatch_defaults_eq_ok_iff.1 h
  refine ⟨k, hwf, htext, fun path hpath => ?_, fun hread path c => ?_⟩
  · obtain ⟨column, hcolumn⟩ := Environment.exists_columnAt_of_statementOf hstatement path hpath
    exact Registry.exists_visits_of_columnAt hcolumn
  · exact Environment.mem_invalidatedBy_of_visits hstatement hread

end StatementFactory

/-! ## A cycle of associations -/

/-- Offices, each led by a person. -/
def Component.office : Component where
  name := ⟨"a.Office", by decide⟩
  table := some "OFFICE"
  cacheLinks := []
  properties := [
    { Property.ofType "city" (.scalar .text) with column := some (.ofName "CITY") },
    { Property.ofType "head" (.component ⟨"a.Person", by decide⟩) with
      association := some ⟨none⟩ }]

/-- Persons, each working in an office. -/
def Component.person : Component where
  name := ⟨"a.Person", by decide⟩
  table := some "PERSON"
  cacheLinks := []
  properties := [
    { Property.ofType "id" (.scalar .int64) with column := some (.ofName "ID") },
    { Property.ofType "office" (.component Component.office.name) with
      association := some ⟨none⟩ }]

/-- Persons and their offices. -/
def Registry.offices : Registry :=
  ⟨[.person, .office], by decide⟩

/-- The city of the office of the head of an office. -/
def PropertyPath.cityOfOfficeOfHead : PropertyPath :=
  ⟨⟨"office", by decide⟩, [⟨"head", by decide⟩, ⟨"office", by decide⟩, ⟨"city", by decide⟩]⟩

/-- The office is met twice on a path around the cycle, and it makes the statement stale. -/
theorem StatementFactory.invalidatedBy_of_dispatch_offices :
    ∃ s, dispatch defaults (.ofRegistry .offices)
        "a.Person/findComponentsBy?properties=office.head.office.city" = .ok s ∧
      Registry.offices.Visits Component.person.name .cityOfOfficeOfHead .office ∧
      Component.office.name ∈ s.cache.invalidatedBy := by
  have hcompiled : (dispatch defaults (.ofRegistry .offices)
      "a.Person/findComponentsBy?properties=office.head.office.city").map (·.text) =
      .ok "SELECT t.ID FROM PERSON t WHERE t.CITY = ?1" := by
    decide +kernel
  obtain ⟨s, hs, -⟩ := map_eq_ok_iff.1 hcompiled
  obtain ⟨k, -, hkey, hpaths, hvisited⟩ := invalidatedBy_of_dispatch hs
  have htext : StatementKey.text
      ⟨Component.person.name, .findComponentsBy [.cityOfOfficeOfHead] [] false⟩ =
      "a.Person/findComponentsBy?properties=office.head.office.city" := by
    decide +kernel
  obtain rfl := StatementKey.text_injective (hkey.trans htext.symm)
  obtain ⟨target, htarget, hvisits⟩ := hpaths .cityOfOfficeOfHead (List.mem_cons_self ..)
  have howner : target.owner = .office := by
    have hresolved : (Registry.offices.propertyAt Component.person.name .cityOfOfficeOfHead).map
        (·.owner) = .ok .office := by
      decide
    obtain ⟨target', htarget', howner⟩ := map_eq_ok_iff.1 hresolved
    obtain rfl := Except.ok.inj (htarget.symm.trans htarget')
    exact howner
  rw [howner] at hvisits
  exact ⟨s, hs, hvisits, (hvisited rfl _ _ hvisits).resolve_left (by decide)⟩

end KeyedSql
