import KeyedSql.Proofs.Outcome
import KeyedSql.Schema.MappedColumn

/-!
# The columns that are found

Every look-up of this file answers with a column that a property declares, and the property is one
of a registered component. The lists of columns have one entry for each property that they are
about.
-/

namespace KeyedSql

open Outcome

/-! ## Declared columns -/

/-- The column is its property's own: the localized one or the plain one, as it is marked. -/
def MappedColumn.IsDeclared (column : MappedColumn) : Prop :=
  if column.localized then column.property.localizedColumn = some column.decl
  else column.property.column = some column.decl

/-- The column is declared by a property of the component. -/
def Component.DeclaresColumn (c : Component) (column : MappedColumn) : Prop :=
  column.property ∈ c.properties ∧ column.IsDeclared

/-- The column is declared by a property of a registered component. -/
def Registry.DeclaresColumn (r : Registry) (column : MappedColumn) : Prop :=
  ∃ c ∈ r.components, c.DeclaresColumn column

theorem MappedColumn.ofDecl_eq_ok_iff {owner : ComponentType} {p : Property} {decl : Column}
    {localized : Bool} {column : MappedColumn} :
    ofDecl owner p decl localized = .ok column ↔
      Text.isBlank decl.name = false ∧ column = ⟨p, decl, localized⟩ := by
  unfold ofDecl
  split
  · simp_all
  · rename_i h
    rw [Bool.not_eq_true] at h
    rw [Except.ok.injEq, eq_comm, and_iff_right h]

/-! ## The columns of a component -/

namespace Component

variable {c : Component} {p : Property} {column : MappedColumn}

theorem property_eq_ok_iff {name : String} : c.property name = .ok p ↔ c.find? name = some p := by
  unfold property
  split <;> simp_all

theorem mem_properties_of_find? {name : String} (h : c.find? name = some p) : p ∈ c.properties :=
  List.mem_of_find?_eq_some h

theorem mem_of_property {name : String} (h : c.property name = .ok p) : p ∈ c.properties :=
  mem_properties_of_find? (property_eq_ok_iff.1 h)

theorem tableName_eq_ok_iff {table : String} :
    c.tableName = .ok table ↔ c.table = some table ∧ Text.isBlank table = false := by
  unfold tableName
  cases c.table with
  | none => simp
  | some name =>
    cases h : Text.isBlank name <;> simp [h]
    · rintro rfl
      exact h
    · rintro rfl
      exact h

theorem mem_of_mem_identities (h : p ∈ c.identities) : p ∈ c.properties :=
  List.mem_of_mem_filter h

theorem plainColumn_eq_ok_none_iff : c.plainColumn p = .ok none ↔ p.column = none := by
  simp [plainColumn, option_mapM_eq_ok_iff]

theorem plainColumn_eq_ok_some_iff :
    c.plainColumn p = .ok (some column) ↔
      ∃ decl, p.column = some decl ∧ Text.isBlank decl.name = false ∧
        column = ⟨p, decl, false⟩ := by
  simp [plainColumn, option_mapM_eq_ok_iff, MappedColumn.ofDecl_eq_ok_iff]

theorem localizedColumn_eq_ok_none_iff :
    c.localizedColumn p = .ok none ↔ p.localizedColumn = none := by
  simp [localizedColumn, option_mapM_eq_ok_iff]

theorem localizedColumn_eq_ok_some_iff :
    c.localizedColumn p = .ok (some column) ↔
      ∃ decl, p.localizedColumn = some decl ∧ Text.isBlank decl.name = false ∧
        column = ⟨p, decl, true⟩ := by
  simp [localizedColumn, option_mapM_eq_ok_iff, MappedColumn.ofDecl_eq_ok_iff]

theorem declaresColumn_of_plainColumn (hp : p ∈ c.properties)
    (h : c.plainColumn p = .ok (some column)) : c.DeclaresColumn column := by
  obtain ⟨decl, hdecl, -, rfl⟩ := plainColumn_eq_ok_some_iff.1 h
  exact ⟨hp, hdecl⟩

theorem declaresColumn_of_localizedColumn (hp : p ∈ c.properties)
    (h : c.localizedColumn p = .ok (some column)) : c.DeclaresColumn column := by
  obtain ⟨decl, hdecl, -, rfl⟩ := localizedColumn_eq_ok_some_iff.1 h
  exact ⟨hp, hdecl⟩

theorem requiredLocalizedColumn_eq_ok_iff :
    c.requiredLocalizedColumn p = .ok column ↔ c.localizedColumn p = .ok (some column) := by
  unfold requiredLocalizedColumn
  rw [bind_eq_ok_iff]
  constructor
  · rintro ⟨_ | found, hfound, h⟩
    · cases h
    · cases h
      exact hfound
  · intro h
    exact ⟨some column, h, rfl⟩

/-- The localized column is compared only where no plain one is declared. -/
theorem comparedColumn_eq_ok_iff :
    c.comparedColumn p = .ok column ↔
      c.plainColumn p = .ok (some column) ∨
        p.column = none ∧ c.localizedColumn p = .ok (some column) := by
  unfold comparedColumn
  rw [bind_eq_ok_iff]
  constructor
  · rintro ⟨_ | found, hplain, h⟩
    · obtain ⟨_ | found, hlocalized, h⟩ := bind_eq_ok_iff.1 h
      · cases h
      · cases h
        exact .inr ⟨plainColumn_eq_ok_none_iff.1 hplain, hlocalized⟩
    · cases h
      exact .inl hplain
  · rintro (h | ⟨hnone, h⟩)
    · exact ⟨some column, h, rfl⟩
    · refine ⟨none, plainColumn_eq_ok_none_iff.2 hnone, ?_⟩
      exact bind_eq_ok_iff.2 ⟨some column, h, rfl⟩

theorem declaresColumn_of_comparedColumn (hp : p ∈ c.properties)
    (h : c.comparedColumn p = .ok column) : c.DeclaresColumn column := by
  rcases comparedColumn_eq_ok_iff.1 h with h | ⟨-, h⟩
  · exact declaresColumn_of_plainColumn hp h
  · exact declaresColumn_of_localizedColumn hp h

/-! ### Identity and version -/

theorem identifyingColumns_eq_ok_iff {columns : List MappedColumn} :
    c.identifyingColumns = .ok columns ↔
      c.identities ≠ [] ∧ c.identities.mapM c.comparedColumn = .ok columns := by
  unfold identifyingColumns
  split <;> simp_all

theorem declaresColumn_of_mem_identifyingColumns {columns : List MappedColumn}
    (h : c.identifyingColumns = .ok columns) (hcolumn : column ∈ columns) :
    c.DeclaresColumn column := by
  obtain ⟨-, h⟩ := identifyingColumns_eq_ok_iff.1 h
  obtain ⟨p, hp, hcompared⟩ := (mem_iff_of_mapM_eq_ok h).1 hcolumn
  exact declaresColumn_of_comparedColumn (mem_of_mem_identities hp) hcompared

theorem length_of_identifyingColumns {columns : List MappedColumn}
    (h : c.identifyingColumns = .ok columns) : columns.length = c.identities.length :=
  length_eq_of_mapM_eq_ok (identifyingColumns_eq_ok_iff.1 h).2

/-- Whether some property of the component is a version. -/
def hasVersion (c : Component) : Bool :=
  c.properties.any (·.version)

theorem find?_of_versionProperty {version : Option Property} (h : c.versionProperty = .ok version) :
    c.properties.find? (·.version) = version := by
  unfold versionProperty at h
  split at h
  · cases h
    assumption
  · split at h
    · cases h
      assumption
    · cases h

theorem versionColumn_eq_ok_iff {version : Option MappedColumn} :
    c.versionColumn = .ok version ↔
      ∃ p, c.versionProperty = .ok p ∧ p.mapM c.comparedColumn = .ok version := by
  rw [versionColumn, bind_eq_ok_iff]

theorem declaresColumn_of_versionColumn (h : c.versionColumn = .ok (some column)) :
    c.DeclaresColumn column := by
  obtain ⟨found, hfound, h⟩ := versionColumn_eq_ok_iff.1 h
  obtain ⟨-, h⟩ | ⟨p, _, rfl, h, hcompared⟩ := option_mapM_eq_ok_iff.1 h
  · cases h
  · cases h
    have hp : p ∈ c.properties := List.mem_of_find?_eq_some (find?_of_versionProperty hfound)
    exact declaresColumn_of_comparedColumn hp hcompared

theorem length_of_versionColumn {version : Option MappedColumn}
    (h : c.versionColumn = .ok version) :
    version.toList.length = if c.hasVersion then 1 else 0 := by
  obtain ⟨found, hfound, h⟩ := versionColumn_eq_ok_iff.1 h
  have hany : c.hasVersion = found.isSome := by
    rw [hasVersion, ← find?_of_versionProperty hfound, List.isSome_find?]
  rw [hany]
  rcases option_mapM_eq_ok_iff.1 h with ⟨rfl, rfl⟩ | ⟨p, found, rfl, rfl, -⟩ <;> rfl

/-! ### Rows -/

theorem columnsOf_eq_ok_iff {columns : List MappedColumn} :
    c.columnsOf p = .ok columns ↔
      ∃ plain localized, c.plainColumn p = .ok plain ∧ c.localizedColumn p = .ok localized ∧
        plain.toList ++ localized.toList = columns := by
  simp only [columnsOf, bind_eq_ok_iff, pure_eq_ok_iff, exists_and_left]

theorem allColumns_eq_ok_iff {columns : List MappedColumn} :
    c.allColumns = .ok columns ↔
      ∃ parts, c.properties.mapM c.columnsOf = .ok parts ∧ parts.flatten = columns := by
  rw [allColumns, map_eq_ok_iff]

theorem rowColumns_eq_ok_iff {columns : List MappedColumn} :
    c.rowColumns = .ok columns ↔ c.allColumns = .ok columns ∧ columns ≠ [] := by
  simp only [rowColumns, bind_eq_ok_iff, guard_eq_ok_iff, pure_eq_ok_iff, List.isEmpty_iff]
  constructor
  · rintro ⟨_, h, hne, rfl⟩
    exact ⟨h, hne⟩
  · rintro ⟨h, hne⟩
    exact ⟨columns, h, hne, rfl⟩

theorem declaresColumn_of_mem_rowColumns {columns : List MappedColumn}
    (h : c.rowColumns = .ok columns) (hcolumn : column ∈ columns) : c.DeclaresColumn column := by
  obtain ⟨parts, hparts, rfl⟩ := allColumns_eq_ok_iff.1 (rowColumns_eq_ok_iff.1 h).1
  obtain ⟨part, hpart, hcolumn⟩ := List.mem_flatten.1 hcolumn
  obtain ⟨p, hp, hcolumns⟩ := (mem_iff_of_mapM_eq_ok hparts).1 hpart
  obtain ⟨plain, localized, hplain, hlocalized, rfl⟩ := columnsOf_eq_ok_iff.1 hcolumns
  rcases List.mem_append.1 hcolumn with hcolumn | hcolumn
  · rw [Option.mem_toList.1 hcolumn] at hplain
    exact declaresColumn_of_plainColumn hp hplain
  · rw [Option.mem_toList.1 hcolumn] at hlocalized
    exact declaresColumn_of_localizedColumn hp hlocalized

theorem cancelColumn_eq_ok_iff :
    c.cancelColumn = .ok column ↔
      ∃ p, c.cancelMark? = some p ∧ c.comparedColumn p = .ok column := by
  unfold cancelColumn
  split <;> simp_all

theorem declaresColumn_of_cancelColumn (h : c.cancelColumn = .ok column) :
    c.DeclaresColumn column := by
  obtain ⟨p, hp, hcompared⟩ := cancelColumn_eq_ok_iff.1 h
  exact declaresColumn_of_comparedColumn (List.mem_of_find?_eq_some hp) hcompared

end Component

/-! ## Columns at the end of a path -/

namespace Registry

variable {r : Registry}

theorem mem_of_component {type : ComponentType} {c : Component} (h : r.component type = .ok c) :
    c ∈ r.components :=
  mem_of_find? (component_eq_ok_iff.1 h)

theorem name_of_component {type : ComponentType} {c : Component} (h : r.component type = .ok c) :
    c.name = type :=
  name_eq_of_find? (component_eq_ok_iff.1 h)

theorem mem_of_associated? {p : Property} {c : Component} (h : r.associated? p = some c) :
    c ∈ r.components := by
  unfold associated? at h
  split at h
  · cases h
  · obtain ⟨type, -, htype⟩ := Option.bind_eq_some_iff.1 h
    exact mem_of_find? htype

theorem target_of_associated? {p : Property} {c : Component} (h : r.associated? p = some c) :
    p.associationTarget? = some c.name ∧ r.contains c.name = true := by
  unfold associated? at h
  split at h
  · cases h
  · obtain ⟨type, htarget, hc⟩ := Option.bind_eq_some_iff.1 h
    obtain rfl := name_eq_of_find? hc
    exact ⟨htarget, Option.isSome_iff_exists.2 ⟨c, hc⟩⟩

/-- A step of a walk goes through the first property of a name. -/
theorem walk_cons_eq_ok_iff {refused : Identifier → ConfigError} {c last : Component}
    {segment : Identifier} {segments : List Identifier} :
    r.walk refused c (segment :: segments) = .ok last ↔
      ∃ p next, c.find? segment.text = some p ∧ r.associated? p = some next ∧
        r.walk refused next segments = .ok last := by
  simp only [walk, bind_eq_ok_iff, Component.property_eq_ok_iff]
  constructor
  · rintro ⟨p, hp, h⟩
    cases hnext : r.associated? p with
    | none =>
      rw [hnext] at h
      cases h
    | some next =>
      rw [hnext] at h
      exact ⟨p, next, hp, hnext, h⟩
  · rintro ⟨p, next, hp, hnext, h⟩
    refine ⟨p, hp, ?_⟩
    rw [hnext]
    exact h

/-- A walk that begins at a registered component goes through registered components. -/
theorem mem_of_walk {refused : Identifier → ConfigError} {segments : List Identifier}
    {owner last : Component} (howner : owner ∈ r.components)
    (h : r.walk refused owner segments = .ok last) : last ∈ r.components := by
  induction segments generalizing owner with
  | nil =>
    cases h
    exact howner
  | cons segment segments ih =>
    obtain ⟨p, next, -, hnext, hrest⟩ := walk_cons_eq_ok_iff.1 h
    exact ih (mem_of_associated? hnext) hrest

theorem propertyAt_eq_ok_iff {type : ComponentType} {path : PropertyPath} {target : OwnedProperty} :
    r.propertyAt type path = .ok target ↔
      ∃ start, r.component type = .ok start ∧
        r.walk (.notAnAssociation type path) start path.leading = .ok target.owner ∧
          target.owner.property path.last.text = .ok target.property := by
  simp only [propertyAt, bind_eq_ok_iff, pure_eq_ok_iff]
  constructor
  · rintro ⟨start, hstart, owner, howner, p, hp, rfl⟩
    exact ⟨start, hstart, howner, hp⟩
  · rintro ⟨start, hstart, howner, hp⟩
    exact ⟨start, hstart, target.owner, howner, target.property, hp, rfl⟩

theorem declaresColumn_of_columnAt {type : ComponentType} {path : PropertyPath}
    {column : MappedColumn} (h : r.columnAt type path = .ok column) : r.DeclaresColumn column := by
  obtain ⟨target, htarget, hcompared⟩ := bind_eq_ok_iff.1 h
  obtain ⟨start, hstart, howner, hp⟩ := propertyAt_eq_ok_iff.1 htarget
  refine ⟨target.owner, mem_of_walk (mem_of_component hstart) howner, ?_⟩
  exact Component.declaresColumn_of_comparedColumn (Component.mem_of_property hp) hcompared

end Registry

end KeyedSql
