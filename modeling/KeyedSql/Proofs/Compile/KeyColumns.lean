import KeyedSql.Proofs.Compile.Updates
import Mathlib.Data.List.Flatten
import Mathlib.Data.List.Nodup
import Mathlib.Data.List.Pairwise

/-!
# Updates that change the key of a row

An update finds its row by columns that it should leave alone, apart from counting the version. The
plain columns that it assigns are chosen so, but the localized columns that a key names are not: an
identity or a version without a plain column is compared by its localized one, and the key may name
it. A version that is an identity besides is counted all the same. Where all columns have names of
their own, an update spares its key exactly if neither is the case.
-/

namespace KeyedSql

open Outcome

/-! ## Columns with names of their own -/

/-- No two declared columns have one name. -/
def Component.HasDistinctColumns (c : Component) : Prop :=
  (c.declaredColumns.map (·.column)).Nodup

instance (c : Component) : Decidable c.HasDistinctColumns :=
  inferInstanceAs (Decidable (List.Nodup _))

namespace Property

variable {p q : Property} {column : RowColumn}

theorem mem_declaredColumns_of_plain? (h : p.plain? = some column) : column ∈ p.declaredColumns :=
  List.mem_append_left _ (Option.mem_toList.2 h)

theorem mem_declaredColumns_of_localized? (h : p.localized? = some column) :
    column ∈ p.declaredColumns :=
  List.mem_append_right _ (Option.mem_toList.2 h)

/-- A column is marked as what it is declared as. -/
theorem plain?_ne_of_localized? (h : q.localized? = some column) : p.plain? ≠ some column := by
  intro hplain
  obtain ⟨decl, -, rfl⟩ := Option.map_eq_some_iff.1 h
  obtain ⟨decl', -, hcolumn⟩ := Option.map_eq_some_iff.1 hplain
  cases congrArg RowColumn.localized hcolumn

theorem compared?_eq_some_iff :
    p.compared? = some column ↔
      p.plain? = some column ∨ p.column = none ∧ p.localized? = some column := by
  cases hdecl : p.column with
  | none => simp [compared?, plain?, hdecl]
  | some decl => simp [compared?, plain?, hdecl]

theorem mem_declaredColumns_of_compared? (h : p.compared? = some column) :
    column ∈ p.declaredColumns := by
  rcases compared?_eq_some_iff.1 h with hplain | ⟨-, hlocalized⟩
  · exact mem_declaredColumns_of_plain? hplain
  · exact mem_declaredColumns_of_localized? hlocalized

end Property

namespace Component

variable {c : Component} {p q : Property} {column other : RowColumn} {names : List Identifier}

/-- Where columns have names of their own, a name belongs to one column of one property. -/
theorem HasDistinctColumns.eq_and_eq (h : c.HasDistinctColumns) (hp : p ∈ c.properties)
    (hq : q ∈ c.properties) (hcolumn : column ∈ p.declaredColumns)
    (hother : other ∈ q.declaredColumns) (hname : column.column = other.column) :
    p = q ∧ column = other := by
  have heq : column = other :=
    List.inj_on_of_nodup_map h (List.mem_flatMap.2 ⟨p, hp, hcolumn⟩)
      (List.mem_flatMap.2 ⟨q, hq, hother⟩) hname
  refine ⟨?_, heq⟩
  by_contra hne
  have hsymm : Std.Symm (Function.onFun List.Disjoint Property.declaredColumns) :=
    ⟨fun _ _ hdisjoint _ hleft hright => hdisjoint hright hleft⟩
  have hpairwise := (List.nodup_flatMap.1 (List.Nodup.of_map _ h)).2
  have hapart : List.Disjoint p.declaredColumns q.declaredColumns := hpairwise.forall hp hq hne
  exact hapart hcolumn (heq ▸ hother)

/-! ## What an update assigns -/

theorem mem_setColumns_iff :
    column ∈ c.setColumns names ↔
      (∃ p ∈ c.properties, p.isIdentity = false ∧ p.version = false ∧ p.plain? = some column) ∨
        ∃ name ∈ names, ∃ p, c.find? name.text = some p ∧ p.localized? = some column := by
  simp only [setColumns, List.mem_append, List.mem_filterMap, mem_updatedProperties_iff,
    localizedColumn?_eq_some_iff, and_assoc]

/-- The rows of the component are found by the property: it is an identity or the version. -/
def IsKey (c : Component) (p : Property) : Prop :=
  p.isIdentity = true ∨ c.firstVersion? = some p

instance : Decidable (c.IsKey p) :=
  inferInstanceAs (Decidable (_ ∨ _))

theorem IsKey.not_updated (h : c.IsKey p) : ¬ (p.isIdentity = false ∧ p.version = false) := by
  rintro ⟨hidentity, hversion⟩
  rcases h with h | h
  · rw [hidentity] at h
    cases h
  · have hversion' : p.version = true := List.find?_some h
    rw [hversion] at hversion'
    cases hversion'

/-- An update assigns a column that it compares only if that is a localized one it is asked for. -/
theorem HasDistinctColumns.mem_setColumns_iff_of_compared? (h : c.HasDistinctColumns)
    (hp : p ∈ c.properties) (hkey : c.IsKey p) (hcolumn : p.compared? = some column) :
    column.column ∈ (c.setColumns names).map (·.column) ↔
      p.column = none ∧ ∃ name ∈ names, c.find? name.text = some p := by
  have hdeclared := Property.mem_declaredColumns_of_compared? hcolumn
  constructor
  · intro hmem
    obtain ⟨other, hother, hname⟩ := List.mem_map.1 hmem
    rcases mem_setColumns_iff.1 hother with ⟨q, hq, hidentity, hversion, hplain⟩ |
      ⟨name, hnames, q, hfind, hlocalized⟩
    · obtain ⟨rfl, -⟩ := h.eq_and_eq hp hq hdeclared
        (Property.mem_declaredColumns_of_plain? hplain) hname.symm
      exact absurd ⟨hidentity, hversion⟩ hkey.not_updated
    · obtain ⟨rfl, rfl⟩ := h.eq_and_eq hp (mem_properties_of_find? hfind) hdeclared
        (Property.mem_declaredColumns_of_localized? hlocalized) hname.symm
      rcases Property.compared?_eq_some_iff.1 hcolumn with hplain | ⟨hnone, -⟩
      · exact absurd hplain (Property.plain?_ne_of_localized? hlocalized)
      · exact ⟨hnone, name, hnames, hfind⟩
  · rintro ⟨hnone, name, hnames, hfind⟩
    rw [Property.compared?_of_column_eq_none hnone] at hcolumn
    have hmem := mem_setColumns_iff.2 (.inr ⟨name, hnames, p, hfind, hcolumn⟩)
    exact List.mem_map_of_mem hmem

theorem plain_sublist_declaredColumns :
    (c.updatedProperties.filterMap (·.plain?)).Sublist c.declaredColumns := by
  rw [List.filterMap_eq_flatMap_toList]
  have hplain := List.Sublist.flatMap_right c.updatedProperties
    fun (p : Property) _ => List.sublist_append_left p.plain?.toList p.localized?.toList
  have hupdated : c.updatedProperties.Sublist c.properties := List.filter_sublist
  exact hplain.trans (hupdated.flatMap _)

theorem HasDistinctColumns.nodup_localized (h : c.HasDistinctColumns) (hnames : names.Nodup) :
    ((names.filterMap c.localizedColumn?).map (·.column)).Nodup := by
  rw [List.map_filterMap]
  refine hnames.filterMap fun name name' s hs hs' => ?_
  obtain ⟨column, hcolumn, rfl⟩ := Option.map_eq_some_iff.1 hs
  obtain ⟨other, hother, heq⟩ := Option.map_eq_some_iff.1 hs'
  obtain ⟨p, hp, hlocalized⟩ := localizedColumn?_eq_some_iff.1 hcolumn
  obtain ⟨q, hq, hlocalized'⟩ := localizedColumn?_eq_some_iff.1 hother
  -- One column has one property, and this has been looked up by either name.
  obtain ⟨rfl, -⟩ := h.eq_and_eq (mem_properties_of_find? hp) (mem_properties_of_find? hq)
    (Property.mem_declaredColumns_of_localized? hlocalized)
    (Property.mem_declaredColumns_of_localized? hlocalized') heq.symm
  have hname : p.name = name.text := by simpa using List.find?_some hp
  have hname' : p.name = name'.text := by simpa using List.find?_some hq
  exact Identifier.ext (hname.symm.trans hname')

/-- An update that is asked for no property twice assigns no column twice. -/
theorem HasDistinctColumns.nodup_setColumns (h : c.HasDistinctColumns) (hnames : names.Nodup) :
    ((c.setColumns names).map (·.column)).Nodup := by
  rw [setColumns, List.map_append]
  refine (h.sublist (plain_sublist_declaredColumns.map _)).append (h.nodup_localized hnames) ?_
  intro s hs hs'
  obtain ⟨column, hcolumn, rfl⟩ := List.mem_map.1 hs
  obtain ⟨other, hother, heq⟩ := List.mem_map.1 hs'
  obtain ⟨p, hp, hplain⟩ := List.mem_filterMap.1 hcolumn
  obtain ⟨name, -, hother⟩ := List.mem_filterMap.1 hother
  obtain ⟨q, hq, hlocalized⟩ := localizedColumn?_eq_some_iff.1 hother
  obtain ⟨-, rfl⟩ := h.eq_and_eq (mem_updatedProperties_iff.1 hp).1 (mem_properties_of_find? hq)
    (Property.mem_declaredColumns_of_plain? hplain)
    (Property.mem_declaredColumns_of_localized? hlocalized) heq.symm
  exact Property.plain?_ne_of_localized? hlocalized hplain

end Component

/-! ## Updates that spare their key -/

/-- The columns that an update changes: those that it assigns, and the version that it counts. -/
def Sql.changedNames : Sql → List String
  | update _ assigned version _ => assigned.map (·.column.name) ++ version.toList
  | insert .. | delete .. | select .. | verbatim _ => []

/-- The statement changes no column twice and no column that identifies rows, and the version by
counting it alone. -/
structure Sql.SparesKey (sql : Sql) (c : Component) : Prop where
  nodup_changedNames : sql.changedNames.Nodup
  version_notMem : ∀ version, c.versionColumn? = some version →
    version.column ∉ sql.assigned.map (·.column.name)
  identity_notMem : ∀ identity ∈ c.identityColumns, identity.column ∉ sql.changedNames

/-- Localized columns that an update is asked for stand beside plain ones if their properties belong
to the key, and the version is no identity. -/
structure Component.KeepsKeyApart (c : Component) (names : List Identifier) : Prop where
  named : ∀ name ∈ names, ∀ p, c.find? name.text = some p → c.IsKey p → p.column ≠ none
  version : ∀ p, c.firstVersion? = some p → p.isIdentity = false

namespace Statement.UpdatesRow

variable {s : Statement} {c : Component} {names : List Identifier}

theorem assigned_eq (h : s.UpdatesRow c names) :
    s.sql.assigned.map (·.column.name) = (c.setColumns names).map (·.column) := by
  obtain ⟨table, assigned, conditions, -, hsql, hassigned, -⟩ := h.exists_update
  have hnames := congrArg (List.map ColumnName.name) hassigned
  rw [List.map_map, List.map_map] at hnames
  rw [hsql]
  exact hnames

theorem changedNames_eq (h : s.UpdatesRow c names) :
    s.sql.changedNames =
      (c.setColumns names).map (·.column) ++ c.versionColumn?.toList.map (·.column) := by
  rw [← h.assigned_eq, ← Option.toList_map]
  obtain ⟨table, assigned, conditions, -, hsql, -⟩ := h.exists_update
  rw [hsql]
  rfl

end Statement.UpdatesRow

namespace Component

variable {c : Component} {p : Property} {column : RowColumn} {names : List Identifier}
  {s : Statement}

theorem mem_identityColumns_iff :
    column ∈ c.identityColumns ↔
      ∃ p ∈ c.properties, p.isIdentity = true ∧ p.compared? = some column := by
  simp [identityColumns, identities, and_assoc]

theorem KeepsKeyApart.notMem_setColumns (h : c.KeepsKeyApart names)
    (hdistinct : c.HasDistinctColumns) (hp : p ∈ c.properties) (hkey : c.IsKey p)
    (hcolumn : p.compared? = some column) :
    column.column ∉ (c.setColumns names).map (·.column) := by
  rw [hdistinct.mem_setColumns_iff_of_compared? hp hkey hcolumn]
  rintro ⟨hnone, name, hname, hfind⟩
  exact h.named name hname p hfind hkey hnone

theorem sparesKey_of_keepsKeyApart (hdistinct : c.HasDistinctColumns) (hnames : names.Nodup)
    (hupdates : s.UpdatesRow c names) (h : c.KeepsKeyApart names) : s.sql.SparesKey c := by
  have hversion : ∀ version, c.versionColumn? = some version →
      version.column ∉ (c.setColumns names).map (·.column) := by
    intro version hversion
    obtain ⟨p, hp, hcompared⟩ := versionColumn?_eq_some_iff.1 hversion
    exact h.notMem_setColumns hdistinct (List.mem_of_find?_eq_some hp) (.inr hp) hcompared
  refine ⟨?_, hupdates.assigned_eq ▸ hversion, ?_⟩
  · rw [hupdates.changedNames_eq]
    refine (hdistinct.nodup_setColumns hnames).append ?_ ?_
    · cases c.versionColumn? <;> simp
    · intro s hs hs'
      obtain ⟨version, hmem, rfl⟩ := List.mem_map.1 hs'
      exact hversion version (Option.mem_toList.1 hmem) hs
  · intro identity hidentity hmem
    obtain ⟨p, hp, hisIdentity, hcompared⟩ := mem_identityColumns_iff.1 hidentity
    rw [hupdates.changedNames_eq, List.mem_append] at hmem
    rcases hmem with hmem | hmem
    · exact h.notMem_setColumns hdistinct hp (.inl hisIdentity) hcompared hmem
    · obtain ⟨version, hmem, hname⟩ := List.mem_map.1 hmem
      obtain ⟨q, hq, hversion⟩ := versionColumn?_eq_some_iff.1 (Option.mem_toList.1 hmem)
      obtain ⟨rfl, -⟩ := hdistinct.eq_and_eq hp (List.mem_of_find?_eq_some hq)
        (Property.mem_declaredColumns_of_compared? hcompared)
        (Property.mem_declaredColumns_of_compared? hversion) hname.symm
      rw [h.version p hq] at hisIdentity
      cases hisIdentity

theorem keepsKeyApart_of_sparesKey (hdistinct : c.HasDistinctColumns) (hcan : c.CanUpdate names)
    (hupdates : s.UpdatesRow c names) (h : s.sql.SparesKey c) : c.KeepsKeyApart names := by
  refine ⟨?_, ?_⟩
  -- A column of the key that is asked for would be assigned.
  · intro name hname p hfind hkey hnone
    have hp : p ∈ c.properties := mem_properties_of_find? hfind
    obtain ⟨q, column, hfind', hlocalized, -⟩ := hcan.localized name hname
    obtain rfl : p = q := Option.some.inj (hfind.symm.trans hfind')
    have hcompared : p.compared? = some column := by
      rw [Property.compared?_of_column_eq_none hnone, hlocalized]
    have hmem : column.column ∈ (c.setColumns names).map (·.column) :=
      (hdistinct.mem_setColumns_iff_of_compared? hp hkey hcompared).2 ⟨hnone, name, hname, hfind⟩
    rcases hkey with hidentity | hversion
    · refine h.identity_notMem column (mem_identityColumns_iff.2 ⟨p, hp, hidentity, hcompared⟩) ?_
      rw [hupdates.changedNames_eq]
      exact List.mem_append_left _ hmem
    · refine h.version_notMem column (versionColumn?_eq_some_iff.2 ⟨p, hversion, hcompared⟩) ?_
      rw [hupdates.assigned_eq]
      exact hmem
  -- The count of a version that is an identity would change the identity.
  · intro p hversion
    by_contra hidentity
    rw [Bool.not_eq_false] at hidentity
    have hp : p ∈ c.properties := List.mem_of_find?_eq_some hversion
    obtain ⟨-, column, hcompared, -⟩ := hcan.version p hversion
    have hcounted : c.versionColumn? = some column :=
      versionColumn?_eq_some_iff.2 ⟨p, hversion, hcompared⟩
    refine h.identity_notMem column (mem_identityColumns_iff.2 ⟨p, hp, hidentity, hcompared⟩) ?_
    rw [hupdates.changedNames_eq, hcounted]
    exact List.mem_append_right _ List.mem_cons_self

end Component

namespace StatementFactory

variable {env : Environment} {type : ComponentType} {c : Component} {s : Statement}
  {nlsProperties : Option (List Identifier)}

/-- An update spares the columns by which it finds its row exactly if the key is kept apart. -/
theorem sparesKey_iff_of_dispatch (hc : env.registry.find? type = some c)
    (hdistinct : c.HasDistinctColumns)
    (hs : dispatch defaults env (StatementKey.mk type (.update nlsProperties)).text = .ok s) :
    s.UpdatesRow c (nlsProperties.getD []) ∧
      (s.sql.SparesKey c ↔ c.KeepsKeyApart (nlsProperties.getD [])) := by
  obtain ⟨hwf, hstatement⟩ := dispatch_text_eq_ok_iff.1 hs
  have hnames : (nlsProperties.getD []).Nodup := by
    cases nlsProperties with
    | none => exact List.nodup_nil
    | some names => exact hwf names rfl
  obtain ⟨c', hc', hupdates⟩ := Environment.updatesRow_of_updateStatement hstatement
  obtain rfl : c = c' := Option.some.inj (hc.symm.trans hc')
  obtain ⟨sql, hsql, -⟩ := Environment.updateStatement_eq_ok_iff.1 hstatement
  obtain ⟨c', hc', hcan⟩ := Environment.exists_updateSql_iff.1 ⟨sql, hsql⟩
  obtain rfl : c = c' := Option.some.inj (hc.symm.trans hc')
  refine ⟨hupdates, ?_, ?_⟩
  · exact Component.keepsKeyApart_of_sparesKey hdistinct hcan hupdates
  · exact Component.sparesKey_of_keepsKeyApart hdistinct hnames hupdates

/-- Trains are identified and counted by plain columns, so an update of the label spares them. -/
theorem sparesKey_iff_of_dispatch_railway :
    ∃ s, dispatch defaults .railway "a.Train/update?nlsProperties=label" = .ok s ∧
      s.text = "UPDATE TRAIN SET CODE = ?1, LABEL = ?2, VERSION = VERSION + 1 " ++
        "WHERE ID = ?3 AND VERSION = ?4" ∧
      Component.train.HasDistinctColumns ∧ s.sql.SparesKey .train := by
  have hcompiled : (dispatch defaults .railway "a.Train/update?nlsProperties=label").map (·.text) =
      .ok ("UPDATE TRAIN SET CODE = ?1, LABEL = ?2, VERSION = VERSION + 1 " ++
        "WHERE ID = ?3 AND VERSION = ?4") := by
    decide +kernel
  obtain ⟨s, hs, htext⟩ := map_eq_ok_iff.1 hcompiled
  have hdistinct : Component.train.HasDistinctColumns := by decide
  refine ⟨s, hs, htext, hdistinct, ?_⟩
  have hkey : StatementKey.text ⟨Component.train.name, .update (some [⟨"label", by decide⟩])⟩ =
      "a.Train/update?nlsProperties=label" := by
    decide +kernel
  have hplain : ∀ p ∈ Component.train.properties, Component.train.IsKey p → p.column ≠ none := by
    decide
  have hversion : ∀ p ∈ Component.train.properties, Component.train.firstVersion? = some p →
      p.isIdentity = false := by
    decide
  rw [← hkey] at hs
  refine (sparesKey_iff_of_dispatch (by decide) hdistinct hs).2.2 ⟨?_, ?_⟩
  · exact fun _ _ p hfind => hplain p (Component.mem_properties_of_find? hfind)
  · exact fun p hfirst => hversion p (List.mem_of_find?_eq_some hfirst) hfirst

end StatementFactory

/-! ## A registry with a localized identity -/

/-- Stations, which are known by their localized names alone. -/
def Component.station : Component where
  name := ⟨"a.Station", by decide⟩
  table := some "STATION"
  cacheLinks := []
  properties := [
    { Property.ofType "name" (.scalar .text) with
      localizedColumn := some (.ofName "NAME"), identity := some ⟨none, none⟩ },
    { Property.ofType "code" (.scalar .text) with column := some (.ofName "CODE") }]

/-- Stations, without caches or generators. -/
def Environment.stations : Environment :=
  .ofRegistry ⟨[.station], by decide⟩

/-- The update of a station's name assigns the column by which it finds the station. -/
theorem StatementFactory.not_sparesKey_stations :
    ∃ s, dispatch defaults .stations "a.Station/update?nlsProperties=name" = .ok s ∧
      s.text = "UPDATE STATION SET CODE = ?1, NAME = ?2 WHERE NAME = ?3" ∧
      Environment.stations.registry.find? Component.station.name = some .station ∧
      Component.station.HasDistinctColumns ∧ ¬ s.sql.SparesKey .station := by
  have hcompiled : (dispatch defaults .stations "a.Station/update?nlsProperties=name").map
      (fun s => (s.text, s.sql.changedNames)) =
        .ok ("UPDATE STATION SET CODE = ?1, NAME = ?2 WHERE NAME = ?3", ["CODE", "NAME"]) := by
    decide +kernel
  obtain ⟨s, hs, hs'⟩ := map_eq_ok_iff.1 hcompiled
  obtain ⟨htext, hchanged⟩ := Prod.mk.inj hs'
  refine ⟨s, hs, htext, by decide, by decide, fun hspares => ?_⟩
  have hidentity : (⟨"NAME", "name", true⟩ : RowColumn) ∈ Component.station.identityColumns := by
    decide
  have hnotMem := hspares.identity_notMem _ hidentity
  rw [hchanged] at hnotMem
  exact hnotMem (by decide)

end KeyedSql
