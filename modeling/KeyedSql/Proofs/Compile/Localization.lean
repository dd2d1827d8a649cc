import KeyedSql.Proofs.Compile.Caching
import KeyedSql.Proofs.Compile.Rows
import KeyedSql.Proofs.Links.Walks

/-!
# Localized rows

A read carries two answers about the links of its component: the types that make it stale, and
whether its rows are localized. The second is asked for only where the first is known, so it never
fails, and it is true of all rows with a localized column.
-/

namespace KeyedSql

open Outcome

/-! ## Localized columns of rows -/

theorem Property.localized_of_mem_declaredColumns {p : Property} {column : RowColumn}
    (h : column ∈ p.declaredColumns) (hlocalized : column.localized = true) :
    p.localizedColumn.isSome = true := by
  rw [declaredColumns, List.mem_append, Option.mem_toList, Option.mem_toList] at h
  rcases h with h | h
  · obtain ⟨decl, -, rfl⟩ := Option.map_eq_some_iff.1 h
    cases hlocalized
  · obtain ⟨decl, hdecl, -⟩ := Option.map_eq_some_iff.1 h
    rw [hdecl]
    rfl

theorem Registry.localizedFrom_of_mem_declaredColumns {r : Registry} {c : Component}
    (hc : c ∈ r.components) {column : RowColumn} (h : column ∈ c.declaredColumns)
    (hlocalized : column.localized = true) : r.LocalizedFrom c.name := by
  obtain ⟨p, hp, hcolumn⟩ := List.mem_flatMap.1 h
  exact ⟨c, hc, .refl, p, hp, Property.localized_of_mem_declaredColumns hcolumn hlocalized⟩

namespace Environment

variable {env : Environment} {id : String} {s : Statement}

/-- Where the part of a read in caching is known, its rows have a shape. -/
theorem exists_rowShape_of_readCacheUse {c : Component} {use : CacheUse}
    (h : env.readCacheUse c.name = .ok use) (columns : List MappedColumn) :
    ∃ shape, env.rowShape c columns = .ok shape := by
  obtain ⟨links, hlinks, -⟩ := readCacheUse_eq_ok_iff.1 h
  obtain ⟨localized, hanswer, -⟩ := Registry.exists_reachesLocalized_of_reachable hlinks
  exact ⟨_, bind_eq_ok_iff.2 ⟨localized, hanswer, rfl⟩⟩

theorem localized_of_rowShape {c : Component} {use : CacheUse} {columns : List MappedColumn}
    {shape : RowShape} (hc : c ∈ env.registry.components) (huse : env.readCacheUse c.name = .ok use)
    (hcolumns : c.rowColumns = .ok columns) (hshape : env.rowShape c columns = .ok shape)
    (hlocalized : ∃ column ∈ shape.columns, column.localized = true) : shape.localized = true := by
  obtain ⟨links, hlinks, -⟩ := readCacheUse_eq_ok_iff.1 huse
  obtain ⟨localized, hanswer, hiff⟩ := Registry.exists_reachesLocalized_of_reachable hlinks
  obtain ⟨answer, hanswer', hshape⟩ := bind_eq_ok_iff.1 hshape
  obtain rfl : localized = answer := Except.ok.inj (hanswer.symm.trans hanswer')
  cases hshape
  obtain ⟨column, hcolumn, hcolumnLocalized⟩ := hlocalized
  change column ∈ columns.map (·.rowColumn) at hcolumn
  rw [Component.map_rowColumn_of_rowColumns hcolumns] at hcolumn
  exact hiff.2 (Registry.localizedFrom_of_mem_declaredColumns hc hcolumn hcolumnLocalized)

theorem localized_of_statementOf {key : StatementKey} (h : env.statementOf id key = .ok s)
    {shape : RowShape} (hshape : s.rows = some shape)
    (hlocalized : ∃ column ∈ shape.columns, column.localized = true) : shape.localized = true := by
  by_cases hfind : key.operation ∈ StatementFactory.find.operations
  · obtain ⟨c, plan, use, cache, hc, huse, h⟩ := exists_findStatement_of_statementOf hfind h
    obtain ⟨_, columns, _, _, -, hcolumns, hrows, -, rfl⟩ := findStatement_eq_ok_iff.1 h
    obtain rfl := Option.some.inj hshape
    obtain ⟨hmem, hname⟩ := Registry.find?_eq_some_iff.1 (Registry.component_eq_ok_iff.1 hc)
    rw [← hname] at huse
    exact localized_of_rowShape hmem huse hcolumns hrows hlocalized
  -- Other statements read no rows, or only the localized column that they are asked for.
  obtain ⟨type, request⟩ := key
  cases request with
  | findEntityById | findComponentsBy | findComponentsByJoinTable =>
    simp [StatementKey.operation, Request.operation, StatementFactory.find] at hfind
  | insert =>
    obtain ⟨_, _, _, _, -, -, -, -, rfl⟩ := insertStatement_eq_ok_iff.1 h
    cases hshape
  | update nlsProperties =>
    obtain ⟨_, -, rfl⟩ := updateStatement_eq_ok_iff.1 h
    cases hshape
  | delete | deleteEntityById | deleteComponentsBy =>
    obtain ⟨_, _, _, -, -, -, rfl⟩ := deleteStatement_eq_ok_iff.1 h
    cases hshape
  | findNlsColumn property =>
    obtain ⟨_, _, _, _, _, _, -, -, -, -, -, -, rfl⟩ := localizedColumnStatement_eq_ok_iff.1 h
    cases hshape
    rfl

end Environment

namespace StatementFactory

/-- Where a component has a link closure, the search tells whether the closure has a localized
column. -/
theorem localization_agrees :
    (∀ (r : Registry) root types, r.reachable root = .ok types →
      ∃ localized, r.reachesLocalized root = .ok localized ∧
        (localized = true → r.LocalizedAmong (root :: types)) ∧
        (r.NoCacheLinksAmong (root :: types) →
          (localized = true ↔ r.LocalizedAmong (root :: types)))) ∧
    ∀ env : Environment,
      (∀ c columns use, env.readCacheUse c.name = .ok use →
        ∃ shape, env.rowShape c columns = .ok shape) ∧
      ∀ key s, dispatch defaults env key = .ok s → ∀ shape ∈ s.rows,
        (∃ column ∈ shape.columns, column.localized = true) → shape.localized = true := by
  refine ⟨fun r root types => Registry.reachesLocalized_of_reachable, fun env => ⟨?_, ?_⟩⟩
  · intro c columns use h
    exact Environment.exists_rowShape_of_readCacheUse h columns
  · intro key s h shape hshape
    obtain ⟨k, -, -, hstatement⟩ := dispatch_defaults_eq_ok_iff.1 h
    exact Environment.localized_of_statementOf hstatement hshape

end StatementFactory

end KeyedSql
