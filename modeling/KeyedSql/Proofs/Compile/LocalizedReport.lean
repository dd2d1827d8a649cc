import KeyedSql.Proofs.Compile.Addressing
import KeyedSql.Proofs.Compile.Finders

/-!
# Reported localized properties

The report on a component names all its properties with a localized column, whereas statements look
at the first property of a name. The two differ for the names of which the first property has no
localized column and another one has: such a name is reported, and statements refuse it. For every
other name the report tells whether it can be read or assigned.
-/

namespace KeyedSql

open Outcome

namespace Component

variable {c : Component} {name : Identifier}

/-- Some property of the name has a localized column. -/
def ReportsLocalized (c : Component) (name : Identifier) : Prop :=
  ∃ p ∈ c.properties, p.name = name.text ∧ p.localizedColumn.isSome = true

/-- Some property of the name has a localized column, but the first one has none. -/
def HidesLocalized (c : Component) (name : Identifier) : Prop :=
  c.ReportsLocalized name ∧ c.localizedColumn? name = none

theorem reportsLocalized_of_localizedColumn? {column : RowColumn}
    (h : c.localizedColumn? name = some column) : c.ReportsLocalized name := by
  obtain ⟨p, hp, hlocalized⟩ := localizedColumn?_eq_some_iff.1 h
  obtain ⟨decl, hdecl, -⟩ := Option.map_eq_some_iff.1 hlocalized
  have hname : p.name = name.text := by simpa using List.find?_some hp
  exact ⟨p, mem_properties_of_find? hp, hname, Option.isSome_iff_exists.2 ⟨decl, hdecl⟩⟩

/-- First properties agree with the report on all names but the hidden ones. -/
theorem exists_localizedColumn?_iff_reports_iff :
    ((∃ column, c.localizedColumn? name = some column) ↔ c.ReportsLocalized name) ↔
      ¬ c.HidesLocalized name := by
  cases hcolumn : c.localizedColumn? name with
  | none => simp [HidesLocalized, hcolumn]
  | some column => simp [HidesLocalized, hcolumn, reportsLocalized_of_localizedColumn? hcolumn]

theorem exists_usable_localizedColumn?_iff_reports_iff :
    ((∃ column, c.localizedColumn? name = some column ∧ column.IsUsable) ↔
        c.ReportsLocalized name) ↔
      ¬ c.HidesLocalized name ∧ ∀ column, c.localizedColumn? name = some column →
        column.IsUsable := by
  cases hcolumn : c.localizedColumn? name with
  | none => simp [HidesLocalized, hcolumn]
  | some column => simp [HidesLocalized, hcolumn, reportsLocalized_of_localizedColumn? hcolumn]

theorem mem_declaredColumns_of_localizedColumn? {column : RowColumn}
    (h : c.localizedColumn? name = some column) : column ∈ c.declaredColumns := by
  obtain ⟨p, hp, hlocalized⟩ := localizedColumn?_eq_some_iff.1 h
  refine List.mem_flatMap.2 ⟨p, mem_properties_of_find? hp, ?_⟩
  exact List.mem_append_right _ (Option.mem_toList.2 hlocalized)

/-- One more name in an update takes a usable localized column of its own, and nothing else. -/
theorem CanUpdate.singleton_iff (h : c.CanUpdate []) :
    c.CanUpdate [name] ↔ ∃ column, c.localizedColumn? name = some column ∧ column.IsUsable := by
  simp only [localizedColumn?_eq_some_iff]
  constructor
  · intro hnamed
    obtain ⟨p, column, hp, hlocalized, husable⟩ := hnamed.localized name (List.mem_singleton_self _)
    exact ⟨column, ⟨p, hp, hlocalized⟩, husable⟩
  · rintro ⟨column, ⟨p, hp, hlocalized⟩, husable⟩
    have hcolumn : c.localizedColumn? name = some column :=
      localizedColumn?_eq_some_iff.2 ⟨p, hp, hlocalized⟩
    exact { h with
      localized := List.forall_mem_singleton.2 ⟨p, column, hp, hlocalized, husable⟩
      assigns := by simp [assignments_eq_nil_iff, setColumns, hcolumn] }

end Component

namespace Registry

variable {r : Registry} {type : ComponentType} {c : Component}

theorem exists_localizedPropertyNames_eq_ok (hc : r.find? type = some c) :
    ∃ names, r.localizedPropertyNames type = .ok names ∧
      ∀ name : Identifier, name.text ∈ names ↔ c.ReportsLocalized name := by
  refine ⟨_, bind_eq_ok_iff.2 ⟨c, component_eq_ok_iff.2 hc, rfl⟩, fun name => ?_⟩
  rw [List.mem_mergeSort, List.mem_eraseDups, List.mem_map]
  simp only [Component.localizedProperties, List.mem_filter, Component.ReportsLocalized]
  constructor
  · rintro ⟨p, ⟨hp, hlocalized⟩, hname⟩
    exact ⟨p, hp, hname, hlocalized⟩
  · rintro ⟨p, hp, hname, hlocalized⟩
    exact ⟨p, ⟨hp, hlocalized⟩, hname⟩

end Registry

namespace Environment

variable {env : Environment} {type : ComponentType} {c : Component} {name : Identifier}

/-- What the finder of a row by identity is compiled from. -/
theorem exists_usable_of_findEntityById (hfind : ∃ s, env.Compiles type .findEntityById s) :
    ∃ c table identity cache, env.registry.component type = .ok c ∧ c.tableName = .ok table ∧
      c.identifyingColumns = .ok identity ∧ env.readCacheUse type = .ok cache ∧
        ∀ column ∈ c.declaredColumns, column.IsUsable := by
  obtain ⟨finder, hfinder⟩ := hfind
  obtain ⟨c, cache, identity, source, hc, hcache, hidentity, hsource, hrows⟩ :=
    findByIdStatement_eq_ok_iff.1 (compiles_iff.1 hfinder).2
  obtain ⟨table, htable, -⟩ := Component.targetSource_eq_ok_iff.1 hsource
  obtain ⟨-, columns, -, -, -, hcolumns, -⟩ := findStatement_eq_ok_iff.1 hrows
  have husable := (Component.exists_rowColumns_iff.1 ⟨columns, hcolumns⟩).1
  exact ⟨c, table, identity, cache, hc, htable, hidentity, hcache, husable⟩

/-- Where the row of an identity can be read, so can the localized columns of first properties. -/
theorem exists_compiles_findNlsColumn_iff (hfind : ∃ s, env.Compiles type .findEntityById s)
    (hc : env.registry.find? type = some c) :
    (∃ s, env.Compiles type (.findNlsColumn name) s) ↔
      ∃ column, c.localizedColumn? name = some column := by
  have hcomponent := Registry.component_eq_ok_iff.2 hc
  constructor
  · rintro ⟨s, hs⟩
    obtain ⟨c', -, p, column, -, -, hc', -, hp, hcolumn, -⟩ :=
      localizedColumnStatement_eq_ok_iff.1 (compiles_iff.1 hs).2
    obtain rfl : c = c' := Except.ok.inj (hcomponent.symm.trans hc')
    have hnamed := Component.namedLocalizedColumn_eq_ok_iff.2 ⟨p, hp, hcolumn⟩
    exact ⟨_, (Component.exists_namedLocalizedColumn_iff.1 ⟨column, hnamed, rfl⟩).1⟩
  · rintro ⟨column, hcolumn⟩
    obtain ⟨c', table, identity, cache, hc', htable, hidentity, hcache, husable⟩ :=
      exists_usable_of_findEntityById hfind
    obtain rfl : c = c' := Except.ok.inj (hcomponent.symm.trans hc')
    have husable := husable column (Component.mem_declaredColumns_of_localizedColumn? hcolumn)
    obtain ⟨found, hnamed, -⟩ := Component.exists_namedLocalizedColumn_iff.2 ⟨hcolumn, husable⟩
    obtain ⟨p, hp, hlocalized⟩ := Component.namedLocalizedColumn_eq_ok_iff.1 hnamed
    exact ⟨_, compiles_iff.2 ⟨trivial, localizedColumnStatement_eq_ok_iff.2
      ⟨c, table, p, found, identity, cache, hcomponent, htable, hp, hlocalized, hidentity, hcache,
        rfl⟩⟩⟩

theorem exists_compiles_update_iff {nlsProperties : Option (List Identifier)} :
    (∃ s, env.Compiles type (.update nlsProperties) s) ↔
      (∀ names ∈ nlsProperties, names.Nodup) ∧
        ∃ c, env.registry.find? type = some c ∧ c.CanUpdate (nlsProperties.getD []) := by
  rw [← exists_updateSql_iff]
  simp only [compiles_update_iff, exists_and_left]
  refine and_congr_right fun _ => ?_
  constructor
  · rintro ⟨s, sql, hsql, -⟩
    exact ⟨sql, hsql⟩
  · rintro ⟨sql, hsql⟩
    exact ⟨_, sql, hsql, rfl⟩

/-- Where a row can be updated, so can the usable localized columns of first properties. -/
theorem exists_compiles_update_singleton_iff (hupdate : ∃ s, env.Compiles type (.update none) s)
    (hc : env.registry.find? type = some c) :
    (∃ s, env.Compiles type (.update (some [name])) s) ↔
      ∃ column, c.localizedColumn? name = some column ∧ column.IsUsable := by
  obtain ⟨-, c', hc', hcan⟩ := exists_compiles_update_iff.1 hupdate
  obtain rfl : c = c' := Option.some.inj (hc.symm.trans hc')
  rw [exists_compiles_update_iff, hc, ← hcan.singleton_iff]
  simp

end Environment

namespace StatementFactory

/-- The report names what can be read or assigned by name, and besides it only hidden columns. -/
theorem localizedReport_exact (env : Environment) (type : ComponentType) :
    ((∃ s, env.Compiles type .findEntityById s) →
      ∃ c names, env.registry.find? type = some c ∧
        env.registry.localizedPropertyNames type = .ok names ∧ ∀ name : Identifier,
          (((∃ s, env.Compiles type (.findNlsColumn name) s) ↔ name.text ∈ names) ↔
            ¬ c.HidesLocalized name) ∧
          ((∃ s, env.Compiles type (.update none) s) →
            (((∃ s, env.Compiles type (.update (some [name])) s) ↔ name.text ∈ names) ↔
              ¬ c.HidesLocalized name))) ∧
    ((∃ s, env.Compiles type (.update none) s) →
      ∃ c names, env.registry.find? type = some c ∧
        env.registry.localizedPropertyNames type = .ok names ∧ ∀ name : Identifier,
          (((∃ s, env.Compiles type (.update (some [name])) s) ↔ name.text ∈ names) ↔
            ¬ c.HidesLocalized name ∧
              ∀ column, c.localizedColumn? name = some column → column.IsUsable)) := by
  constructor
  · intro hfind
    obtain ⟨c, -, -, -, hcomponent, -, -, -, husable⟩ :=
      Environment.exists_usable_of_findEntityById hfind
    have hc := Registry.component_eq_ok_iff.1 hcomponent
    obtain ⟨names, hnames, hreports⟩ := Registry.exists_localizedPropertyNames_eq_ok hc
    refine ⟨c, names, hc, hnames, fun name => ⟨?_, fun hupdate => ?_⟩⟩
    · rw [Environment.exists_compiles_findNlsColumn_iff hfind hc, hreports]
      exact Component.exists_localizedColumn?_iff_reports_iff
    · have hcolumns : (∃ column, c.localizedColumn? name = some column ∧ column.IsUsable) ↔
          ∃ column, c.localizedColumn? name = some column :=
        exists_congr fun column => and_iff_left_of_imp fun h =>
          husable column (Component.mem_declaredColumns_of_localizedColumn? h)
      rw [Environment.exists_compiles_update_singleton_iff hupdate hc, hreports, hcolumns]
      exact Component.exists_localizedColumn?_iff_reports_iff
  · intro hupdate
    obtain ⟨-, c, hc, -⟩ := Environment.exists_compiles_update_iff.1 hupdate
    obtain ⟨names, hnames, hreports⟩ := Registry.exists_localizedPropertyNames_eq_ok hc
    refine ⟨c, names, hc, hnames, fun name => ?_⟩
    rw [Environment.exists_compiles_update_singleton_iff hupdate hc, hreports]
    exact Component.exists_usable_localizedColumn?_iff_reports_iff

end StatementFactory

/-! ## A name that is declared twice -/

/-- Countries, with a plain name and a localized one and with a localized label. -/
def Component.country : Component where
  name := ⟨"a.Country", by decide⟩
  table := some "COUNTRY"
  cacheLinks := []
  properties := [
    { Property.ofType "id" (.scalar .int64) with
      column := some (.ofName "ID"), identity := some ⟨none, none⟩ },
    { Property.ofType "name" (.scalar .text) with column := some (.ofName "NAME") },
    { Property.ofType "name" (.scalar .text) with
      localizedColumn := some (.ofName "NAME_NLS") },
    { Property.ofType "label" (.scalar .text) with localizedColumn := some (.ofName "LABEL") }]

/-- Countries, without caches or generators. -/
def Environment.atlas : Environment :=
  .ofRegistry ⟨[.country], by decide⟩

namespace StatementFactory

theorem exists_compiles_country :
    (∃ s, Environment.atlas.Compiles Component.country.name .findEntityById s) ∧
      ∃ s, Environment.atlas.Compiles Component.country.name (.update none) s := by
  have hfind : (dispatch defaults .atlas
      (StatementKey.text ⟨Component.country.name, .findEntityById⟩)).map (·.text) =
        .ok "SELECT t.ID, t.NAME, t.NAME_NLS, t.LABEL FROM COUNTRY t WHERE t.ID = ?1" := by
    decide +kernel
  have hupdate : (dispatch defaults .atlas
      (StatementKey.text ⟨Component.country.name, .update none⟩)).map (·.text) =
        .ok "UPDATE COUNTRY SET NAME = ?1 WHERE ID = ?2" := by
    decide +kernel
  obtain ⟨finder, hfinder, -⟩ := map_eq_ok_iff.1 hfind
  obtain ⟨update, hupdate, -⟩ := map_eq_ok_iff.1 hupdate
  exact ⟨⟨finder, hfinder⟩, update, hupdate⟩

theorem find?_country :
    Environment.atlas.registry.find? Component.country.name = some .country := by
  decide

/-- The label of a country is reported, read and assigned. -/
theorem localizedReport_exact_atlas :
    ∃ (label : Identifier) (names : List String), label.text = "label" ∧
      (∃ s, Environment.atlas.Compiles Component.country.name .findEntityById s) ∧
      (∃ s, Environment.atlas.Compiles Component.country.name (.update none) s) ∧
      Environment.atlas.registry.localizedPropertyNames Component.country.name = .ok names ∧
      "label" ∈ names ∧
      (∃ s, Environment.atlas.Compiles Component.country.name (.findNlsColumn label) s) ∧
      ∃ s, Environment.atlas.Compiles Component.country.name (.update (some [label])) s := by
  let label : Identifier := ⟨"label", by decide⟩
  obtain ⟨hfind, hupdate⟩ := exists_compiles_country
  obtain ⟨names, hnames, hreports⟩ :=
    Registry.exists_localizedPropertyNames_eq_ok find?_country
  have hlabel : label.text ∈ names :=
    (hreports label).2 ⟨Component.country.properties[3], List.getElem_mem _, rfl, rfl⟩
  have hshown : ¬ Component.country.HidesLocalized label := fun h => absurd h.2 (by decide)
  obtain ⟨c, names', hc, hnames', hexact⟩ :=
    (localizedReport_exact .atlas Component.country.name).1 hfind
  obtain rfl : .country = c := Option.some.inj (find?_country.symm.trans hc)
  obtain rfl : names = names' := Except.ok.inj (hnames.symm.trans hnames')
  obtain ⟨hread, hassigned⟩ := hexact label
  refine ⟨label, names, rfl, hfind, hupdate, hnames, hlabel, ?_, ?_⟩
  · exact (hread.2 hshown).2 hlabel
  · exact ((hassigned hupdate).2 hshown).2 hlabel

/-- The name of a country is reported, but neither read nor assigned. -/
theorem not_localizedReport_atlas :
    ∃ (name : Identifier) (names : List String), name.text = "name" ∧
      (∃ s, Environment.atlas.Compiles Component.country.name .findEntityById s) ∧
      (∃ s, Environment.atlas.Compiles Component.country.name (.update none) s) ∧
      Environment.atlas.registry.localizedPropertyNames Component.country.name = .ok names ∧
      "name" ∈ names ∧
      (¬ ∃ s, Environment.atlas.Compiles Component.country.name (.findNlsColumn name) s) ∧
      ¬ ∃ s, Environment.atlas.Compiles Component.country.name (.update (some [name])) s := by
  let name : Identifier := ⟨"name", by decide⟩
  obtain ⟨hfind, hupdate⟩ := exists_compiles_country
  obtain ⟨names, hnames, hreports⟩ :=
    Registry.exists_localizedPropertyNames_eq_ok find?_country
  have hname : name.text ∈ names :=
    (hreports name).2 ⟨Component.country.properties[2], List.getElem_mem _, rfl, rfl⟩
  have hnone : Component.country.localizedColumn? name = none := by decide
  refine ⟨name, names, rfl, hfind, hupdate, hnames, hname, ?_, ?_⟩
  · rw [Environment.exists_compiles_findNlsColumn_iff hfind find?_country, hnone]
    simp
  · rw [Environment.exists_compiles_update_singleton_iff hupdate find?_country, hnone]
    simp

end StatementFactory

end KeyedSql
