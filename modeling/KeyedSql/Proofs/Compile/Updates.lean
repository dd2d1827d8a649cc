import KeyedSql.Proofs.Compile.Rows

/-!
# Updates

When a component can be updated, and by which text. `Component.CanUpdate` collects what the
declarations must have for an update to be compiled, in no order of checks; `Component.setColumns`
and `Component.keyColumns` are the columns that it assigns and compares, read off the declarations.
-/

namespace KeyedSql

open Outcome

/-! ## What an update is about -/

/-- The column by which a property is compared: the plain one, else the localized one. -/
def Property.compared? (p : Property) : Option RowColumn :=
  p.plain?.or p.localized?

/-- The column has a name. -/
def RowColumn.IsUsable (column : RowColumn) : Prop :=
  Text.isBlank column.column = false

/-- The property has a column by which it can be compared. -/
def Property.IsComparable (p : Property) : Prop :=
  ∃ column, p.compared? = some column ∧ column.IsUsable

/-- Columns with the places of their bound values, numbered from `start`. -/
def RowColumn.places (start : Nat) (columns : List RowColumn) : List String :=
  (columns.zipIdx start).map fun p => p.1.column ++ " = ?" ++ toString p.2

namespace Component

/-- The properties that an update assigns without being asked. -/
def updatedProperties (c : Component) : List Property :=
  c.properties.filter fun p => !(p.isIdentity || p.version)

/-- The localized column of the first property of a name. -/
def localizedColumn? (c : Component) (name : Identifier) : Option RowColumn :=
  (c.find? name.text).bind (·.localized?)

/-- The columns that an update assigns: the plain ones of its properties, then the localized ones
that it is asked for. -/
def setColumns (c : Component) (names : List Identifier) : List RowColumn :=
  c.updatedProperties.filterMap (·.plain?) ++ names.filterMap c.localizedColumn?

/-- The columns that identify a row. -/
def identityColumns (c : Component) : List RowColumn :=
  c.identities.filterMap (·.compared?)

/-- The first property that is a version. -/
def firstVersion? (c : Component) : Option Property :=
  c.properties.find? (·.version)

/-- The column that counts the changes of a row. -/
def versionColumn? (c : Component) : Option RowColumn :=
  c.firstVersion?.bind (·.compared?)

/-- The columns that an update compares. -/
def keyColumns (c : Component) : List RowColumn :=
  c.identityColumns ++ c.versionColumn?.toList

/-- The assignments of an update. -/
def assignments (c : Component) (names : List Identifier) : List String :=
  RowColumn.places 1 (c.setColumns names) ++
    c.versionColumn?.toList.map fun version => version.column ++ " = " ++ version.column ++ " + 1"

/-- The conditions of an update, their bound values numbered on from those of the assignments. -/
def comparisons (c : Component) (names : List Identifier) : List String :=
  RowColumn.places (1 + (c.setColumns names).length) c.keyColumns

/-- What a component must declare to be updated with some localized columns. -/
structure CanUpdate (c : Component) (names : List Identifier) : Prop where
  table : ∃ table, c.table = some table ∧ Text.isBlank table = false
  identity : ∃ p ∈ c.properties, p.isIdentity = true
  identity_comparable : ∀ p ∈ c.properties, p.isIdentity = true → p.IsComparable
  version : ∀ p, c.firstVersion? = some p →
    (p.storedType = .scalar .int32 ∨ p.storedType = .scalar .int64) ∧ p.IsComparable
  plain : ∀ p ∈ c.properties, p.isIdentity = false → p.version = false →
    ∀ column, p.plain? = some column → column.IsUsable
  localized : ∀ name ∈ names, ∃ p column, c.find? name.text = some p ∧
    p.localized? = some column ∧ column.IsUsable
  assigns : c.assignments names ≠ []

end Component

/-- The statement updates a row of the component: it assigns and compares the columns of an update,
and the values of their properties are bound in this order. -/
structure Statement.UpdatesRow (s : Statement) (c : Component) (names : List Identifier) :
    Prop where
  exists_update : ∃ table assigned conditions, c.table = some table ∧
    s.sql = .update table assigned (c.versionColumn?.map (·.column)) conditions ∧
      assigned.map (·.column) = (c.setColumns names).map (fun column => ⟨none, column.column⟩) ∧
        conditions.map (·.column) = c.keyColumns.map (fun column => ⟨none, column.column⟩) ∧
          s.text = "UPDATE " ++ table ++ " SET " ++ ", ".intercalate (c.assignments names) ++
            " WHERE " ++ " AND ".intercalate (c.comparisons names)
  boundProperties_eq :
    s.boundProperties = (c.setColumns names ++ c.keyColumns).map (·.property)

/-! ## The columns of an update -/

theorem ValueType.isInteger_iff {t : ValueType} :
    t.isInteger = true ↔ t = .scalar .int32 ∨ t = .scalar .int64 := by
  cases t with
  | scalar s => cases s <;> simp [isInteger, Scalar.isInteger]
  | component | bare | collection | named => simp [isInteger]

namespace Property

variable {p : Property}

theorem plain?_of_column {decl : Column} (h : p.column = some decl) :
    p.plain? = some ⟨decl.name, p.name, false⟩ := by
  rw [plain?, h]
  rfl

theorem compared?_of_column {decl : Column} (h : p.column = some decl) :
    p.compared? = some ⟨decl.name, p.name, false⟩ := by
  rw [compared?, plain?_of_column h]
  rfl

theorem compared?_of_column_eq_none (h : p.column = none) : p.compared? = p.localized? := by
  rw [compared?, plain?, h]
  rfl

end Property

/-- What is declared is found, unless its name is blank. -/
theorem MappedColumn.exists_mapM_ofDecl_iff {owner : ComponentType} {p : Property}
    {declared : Option Column} {localized : Bool} :
    (∃ found, (declared.mapM fun decl => ofDecl owner p decl localized) = .ok found) ↔
      ∀ column, declared.map (fun decl => RowColumn.mk decl.name p.name localized) = some column →
        column.IsUsable := by
  cases declared with
  | none => exact iff_of_true ⟨none, rfl⟩ nofun
  | some decl =>
    constructor
    · rintro ⟨found, hfound⟩ _ ⟨⟩
      obtain ⟨h, -⟩ | ⟨_, _, h, -, hdecl⟩ := option_mapM_eq_ok_iff.1 hfound
      · cases h
      · cases h
        exact (ofDecl_eq_ok_iff.1 hdecl).1
    · intro h
      have hdecl : ofDecl owner p decl localized = .ok ⟨p, decl, localized⟩ :=
        ofDecl_eq_ok_iff.2 ⟨h _ rfl, rfl⟩
      exact ⟨_, option_mapM_eq_ok_iff.2 (.inr ⟨decl, _, rfl, rfl, hdecl⟩)⟩

namespace Component

variable {c : Component} {p : Property} {names : List Identifier}

theorem localizedColumn?_eq_some_iff {name : Identifier} {column : RowColumn} :
    c.localizedColumn? name = some column ↔
      ∃ p, c.find? name.text = some p ∧ p.localized? = some column :=
  Option.bind_eq_some_iff

theorem versionColumn?_eq_some_iff {column : RowColumn} :
    c.versionColumn? = some column ↔
      ∃ p, c.firstVersion? = some p ∧ p.compared? = some column :=
  Option.bind_eq_some_iff

theorem exists_plainColumn_iff :
    (∃ found, c.plainColumn p = .ok found) ↔
      ∀ column, p.plain? = some column → column.IsUsable :=
  MappedColumn.exists_mapM_ofDecl_iff

theorem exists_localizedColumn_iff {column : RowColumn} :
    (∃ found, c.localizedColumn p = .ok (some found) ∧ found.rowColumn = column) ↔
      p.localized? = some column ∧ column.IsUsable := by
  constructor
  · rintro ⟨found, hfound, rfl⟩
    obtain ⟨decl, hdecl, hname, rfl⟩ := localizedColumn_eq_ok_some_iff.1 hfound
    rw [Property.localized?, hdecl]
    exact ⟨rfl, hname⟩
  · rintro ⟨hlocalized, husable⟩
    obtain ⟨decl, hdecl, rfl⟩ := Option.map_eq_some_iff.1 hlocalized
    exact ⟨_, localizedColumn_eq_ok_some_iff.2 ⟨decl, hdecl, husable, rfl⟩, rfl⟩

theorem exists_comparedColumn_iff {column : RowColumn} :
    (∃ found, c.comparedColumn p = .ok found ∧ found.rowColumn = column) ↔
      p.compared? = some column ∧ column.IsUsable := by
  constructor
  · rintro ⟨found, hfound, rfl⟩
    rcases comparedColumn_eq_ok_iff.1 hfound with hplain | ⟨hnone, hlocalized⟩
    · obtain ⟨decl, hdecl, hname, rfl⟩ := plainColumn_eq_ok_some_iff.1 hplain
      exact ⟨Property.compared?_of_column hdecl, hname⟩
    · rw [Property.compared?_of_column_eq_none hnone]
      exact exists_localizedColumn_iff.1 ⟨found, hlocalized, rfl⟩
  · rintro ⟨hcompared, husable⟩
    cases hdecl : p.column with
    | none =>
      rw [Property.compared?_of_column_eq_none hdecl] at hcompared
      obtain ⟨found, hfound, rfl⟩ := (@exists_localizedColumn_iff c p column).2 ⟨hcompared, husable⟩
      exact ⟨found, comparedColumn_eq_ok_iff.2 (.inr ⟨hdecl, hfound⟩), rfl⟩
    | some decl =>
      rw [Property.compared?_of_column hdecl] at hcompared
      cases hcompared
      have hplain : c.plainColumn p = .ok (some ⟨p, decl, false⟩) :=
        plainColumn_eq_ok_some_iff.2 ⟨decl, hdecl, husable, rfl⟩
      exact ⟨_, comparedColumn_eq_ok_iff.2 (.inl hplain), rfl⟩

theorem exists_comparedColumn_iff_isComparable :
    (∃ found, c.comparedColumn p = .ok found) ↔ p.IsComparable :=
  exists_eq_ok_iff_of_image fun _ => exists_comparedColumn_iff

theorem exists_namedLocalizedColumn_iff {name : Identifier} {column : RowColumn} :
    (∃ found, c.namedLocalizedColumn name = .ok found ∧ found.rowColumn = column) ↔
      c.localizedColumn? name = some column ∧ column.IsUsable := by
  simp only [namedLocalizedColumn_eq_ok_iff, property_eq_ok_iff, localizedColumn?_eq_some_iff]
  constructor
  · rintro ⟨found, ⟨p, hp, hfound⟩, hcolumn⟩
    obtain ⟨hlocalized, husable⟩ := exists_localizedColumn_iff.1 ⟨found, hfound, hcolumn⟩
    exact ⟨⟨p, hp, hlocalized⟩, husable⟩
  · rintro ⟨⟨p, hp, hlocalized⟩, husable⟩
    obtain ⟨found, hfound, hcolumn⟩ := exists_localizedColumn_iff.2 ⟨hlocalized, husable⟩
    exact ⟨found, ⟨p, hp, hfound⟩, hcolumn⟩

/-! ### Identity and version -/

theorem exists_identifyingColumns_iff :
    (∃ columns, c.identifyingColumns = .ok columns) ↔
      (∃ p ∈ c.properties, p.isIdentity = true) ∧
        ∀ p ∈ c.properties, p.isIdentity = true → p.IsComparable := by
  have hne : c.identities ≠ [] ↔ ∃ p ∈ c.properties, p.isIdentity = true := by
    simp [identities]
  simp only [identifyingColumns_eq_ok_iff, exists_and_left, exists_mapM_eq_ok_iff,
    exists_comparedColumn_iff_isComparable, hne]
  simp [identities]

theorem map_rowColumn_of_identifyingColumns {columns : List MappedColumn}
    (h : c.identifyingColumns = .ok columns) : columns.map (·.rowColumn) = c.identityColumns :=
  map_eq_filterMap_of_mapM_eq_ok
    (fun _ found hfound => (exists_comparedColumn_iff.1 ⟨found, hfound, rfl⟩).1)
    (identifyingColumns_eq_ok_iff.1 h).2

theorem versionProperty_eq_ok_iff {version : Option Property} :
    c.versionProperty = .ok version ↔
      c.firstVersion? = version ∧
        ∀ p, c.firstVersion? = some p → p.storedType.isInteger = true := by
  unfold versionProperty firstVersion?
  cases c.properties.find? (·.version) with
  | none => simp
  | some p => by_cases hinteger : p.storedType.isInteger = true <;> simp [hinteger]

theorem exists_versionColumn_iff :
    (∃ version, c.versionColumn = .ok version) ↔
      ∀ p, c.firstVersion? = some p →
        (p.storedType = .scalar .int32 ∨ p.storedType = .scalar .int64) ∧ p.IsComparable := by
  constructor
  · rintro ⟨version, h⟩ p hp
    obtain ⟨found, hfound, hcompared⟩ := versionColumn_eq_ok_iff.1 h
    obtain ⟨rfl, hinteger⟩ := versionProperty_eq_ok_iff.1 hfound
    have hcolumn : ∃ column, c.comparedColumn p = .ok column := by
      rcases option_mapM_eq_ok_iff.1 hcompared with ⟨hnone, -⟩ | ⟨q, column, hq, -, hcolumn⟩
      · cases hp.symm.trans hnone
      · cases hp.symm.trans hq
        exact ⟨column, hcolumn⟩
    exact ⟨ValueType.isInteger_iff.1 (hinteger p hp),
      exists_comparedColumn_iff_isComparable.1 hcolumn⟩
  · intro h
    have hproperty : c.versionProperty = .ok c.firstVersion? :=
      versionProperty_eq_ok_iff.2 ⟨rfl, fun p hp => ValueType.isInteger_iff.2 (h p hp).1⟩
    have hcolumn : ∃ version, c.firstVersion?.mapM c.comparedColumn = .ok version := by
      cases hp : c.firstVersion? with
      | none => exact ⟨none, rfl⟩
      | some p =>
        obtain ⟨column, hcolumn⟩ := exists_comparedColumn_iff_isComparable.2 (h p hp).2
        exact ⟨some column, option_mapM_eq_ok_iff.2 (.inr ⟨p, column, rfl, rfl, hcolumn⟩)⟩
    obtain ⟨version, hversion⟩ := hcolumn
    exact ⟨version, versionColumn_eq_ok_iff.2 ⟨_, hproperty, hversion⟩⟩

theorem map_rowColumn_of_versionColumn {version : Option MappedColumn}
    (h : c.versionColumn = .ok version) : version.map (·.rowColumn) = c.versionColumn? := by
  obtain ⟨found, hfound, hcompared⟩ := versionColumn_eq_ok_iff.1 h
  obtain ⟨rfl, -⟩ := versionProperty_eq_ok_iff.1 hfound
  unfold versionColumn?
  rcases option_mapM_eq_ok_iff.1 hcompared with ⟨hnone, rfl⟩ | ⟨p, column, hp, rfl, hcolumn⟩
  · rw [hnone]
    rfl
  · rw [hp]
    exact (exists_comparedColumn_iff.1 ⟨column, hcolumn, rfl⟩).1.symm

/-! ### Assigned columns -/

theorem mem_updatedProperties_iff :
    p ∈ c.updatedProperties ↔ p ∈ c.properties ∧ p.isIdentity = false ∧ p.version = false := by
  simp [updatedProperties]

theorem exists_updatableColumns_iff :
    (∃ columns, c.updatableColumns = .ok columns) ↔
      ∀ p ∈ c.properties, p.isIdentity = false → p.version = false →
        ∀ column, p.plain? = some column → column.IsUsable := by
  have hplain : (∃ columns, c.updatableColumns = .ok columns) ↔
      ∃ plain, c.updatedProperties.mapM c.plainColumn = .ok plain := by
    simp only [updatableColumns_eq_ok_iff]
    constructor
    · rintro ⟨_, plain, hplain, -⟩
      exact ⟨plain, hplain⟩
    · rintro ⟨plain, hplain⟩
      exact ⟨_, plain, hplain, rfl⟩
  rw [hplain, exists_mapM_eq_ok_iff]
  simp only [exists_plainColumn_iff, mem_updatedProperties_iff, and_imp]

theorem map_rowColumn_of_updatableColumns {columns : List MappedColumn}
    (h : c.updatableColumns = .ok columns) :
    columns.map (·.rowColumn) = c.updatedProperties.filterMap (·.plain?) := by
  obtain ⟨plain, hplain, rfl⟩ := updatableColumns_eq_ok_iff.1 h
  have hdeclared : plain.map (·.map (·.rowColumn)) = c.updatedProperties.map (·.plain?) :=
    map_eq_map_of_mapM_eq_ok (fun _ _ => map_rowColumn_of_plainColumn) hplain
  have hitems : (c.updatedProperties.map (·.plain?)).filterMap id =
      c.updatedProperties.filterMap (·.plain?) := List.filterMap_map
  rw [← hitems, ← hdeclared, List.filterMap_map, List.map_filterMap]
  rfl

theorem exists_namedLocalizedColumns_iff :
    (∃ columns, names.mapM c.namedLocalizedColumn = .ok columns) ↔
      ∀ name ∈ names, ∃ p column, c.find? name.text = some p ∧
        p.localized? = some column ∧ column.IsUsable := by
  rw [exists_mapM_eq_ok_iff]
  refine forall₂_congr fun name _ => ?_
  rw [exists_eq_ok_iff_of_image fun _ => exists_namedLocalizedColumn_iff]
  simp only [localizedColumn?_eq_some_iff]
  constructor
  · rintro ⟨column, ⟨p, hp, hlocalized⟩, husable⟩
    exact ⟨p, column, hp, hlocalized, husable⟩
  · rintro ⟨p, column, hp, hlocalized, husable⟩
    exact ⟨column, ⟨p, hp, hlocalized⟩, husable⟩

theorem map_rowColumn_of_namedLocalizedColumns {columns : List MappedColumn}
    (h : names.mapM c.namedLocalizedColumn = .ok columns) :
    columns.map (·.rowColumn) = names.filterMap c.localizedColumn? :=
  map_eq_filterMap_of_mapM_eq_ok
    (fun _ found hfound => (exists_namedLocalizedColumn_iff.1 ⟨found, hfound, rfl⟩).1) h

theorem assignments_eq_nil_iff :
    c.assignments names = [] ↔ c.setColumns names = [] ∧ c.versionColumn? = none := by
  simp [assignments, RowColumn.places, Option.toList_eq_nil_iff]

theorem map_rowColumn_of_set {plain localized : List MappedColumn}
    (hplain : c.updatableColumns = .ok plain)
    (hlocalized : names.mapM c.namedLocalizedColumn = .ok localized) :
    (plain ++ localized).map (·.rowColumn) = c.setColumns names := by
  rw [List.map_append, map_rowColumn_of_updatableColumns hplain,
    map_rowColumn_of_namedLocalizedColumns hlocalized]
  rfl

theorem map_rowColumn_of_key {identity : List MappedColumn} {version : Option MappedColumn}
    (hidentity : c.identifyingColumns = .ok identity) (hversion : c.versionColumn = .ok version) :
    (identity ++ version.toList).map (·.rowColumn) = c.keyColumns := by
  rw [List.map_append, map_rowColumn_of_identifyingColumns hidentity, ← Option.toList_map,
    map_rowColumn_of_versionColumn hversion]
  rfl

theorem assignments_eq_nil_iff_of_columns {plain localized : List MappedColumn}
    {version : Option MappedColumn} (hplain : c.updatableColumns = .ok plain)
    (hlocalized : names.mapM c.namedLocalizedColumn = .ok localized)
    (hversion : c.versionColumn = .ok version) :
    c.assignments names = [] ↔ plain ++ localized = [] ∧ version = none := by
  rw [assignments_eq_nil_iff, ← map_rowColumn_of_set hplain hlocalized,
    ← map_rowColumn_of_versionColumn hversion, List.map_eq_nil_iff, Option.map_eq_none_iff]

end Component

/-! ## The statement of an update -/

theorem Slot.texts_map_ownSlot (start : Nat) (columns : List MappedColumn) :
    Slot.texts start (columns.map (·.ownSlot none)) =
      RowColumn.places start (columns.map (·.rowColumn)) := by
  have hsign : " = " ++ "?" = " = ?" := rfl
  have htext : ∀ (column : MappedColumn) (n : Nat),
      (column.ownSlot none).text n = column.name ++ " = ?" ++ toString n := by
    intro column n
    rw [text, placeholder, ← hsign, String.append_assoc, String.append_assoc, String.append_assoc]
    rfl
  rw [texts, RowColumn.places, List.zipIdx_map, List.zipIdx_map, List.map_map, List.map_map]
  exact List.map_congr_left fun item _ => htext item.1 item.2

theorem Sql.text_update (table : String) (assigned : List Slot) (version : Option String)
    (conditions : List Slot) :
    (update table assigned version conditions).text =
      "UPDATE " ++ table ++ " SET " ++
        ", ".intercalate (Slot.texts 1 assigned ++ version.toList.map increment) ++ " WHERE " ++
          " AND ".intercalate (Slot.texts (1 + assigned.length) conditions) := by
  have hwhere : " " ++ "WHERE " = " WHERE " := rfl
  unfold text whereClause
  simp only [← hwhere, String.append_assoc]

namespace Environment

variable {env : Environment} {id : String} {type : ComponentType} {s : Statement}

theorem exists_updateSql_iff {names : List Identifier} :
    (∃ sql, env.updateSql type names = .ok sql) ↔
      ∃ c, env.registry.find? type = some c ∧ c.CanUpdate names := by
  constructor
  · rintro ⟨sql, hsql⟩
    obtain ⟨c, table, identity, version, plain, localized, hc, htable, hidentity, hversion, hplain,
      hlocalized, hassigns, -⟩ := updateSql_eq_ok_iff.1 hsql
    have hidentities := Component.exists_identifyingColumns_iff.1 ⟨identity, hidentity⟩
    exact ⟨c, Registry.component_eq_ok_iff.1 hc, {
      table := ⟨table, Component.tableName_eq_ok_iff.1 htable⟩
      identity := hidentities.1
      identity_comparable := hidentities.2
      version := Component.exists_versionColumn_iff.1 ⟨version, hversion⟩
      plain := Component.exists_updatableColumns_iff.1 ⟨plain, hplain⟩
      localized := Component.exists_namedLocalizedColumns_iff.1 ⟨localized, hlocalized⟩
      assigns := mt (Component.assignments_eq_nil_iff_of_columns hplain hlocalized hversion).1
        hassigns }⟩
  · rintro ⟨c, hc, h⟩
    obtain ⟨table, htable⟩ := h.table
    obtain ⟨identity, hidentity⟩ :=
      Component.exists_identifyingColumns_iff.2 ⟨h.identity, h.identity_comparable⟩
    obtain ⟨version, hversion⟩ := Component.exists_versionColumn_iff.2 h.version
    obtain ⟨plain, hplain⟩ := Component.exists_updatableColumns_iff.2 h.plain
    obtain ⟨localized, hlocalized⟩ := Component.exists_namedLocalizedColumns_iff.2 h.localized
    have hassigns :=
      mt (Component.assignments_eq_nil_iff_of_columns hplain hlocalized hversion).2 h.assigns
    exact ⟨_, updateSql_eq_ok_iff.2 ⟨c, table, identity, version, plain, localized,
      Registry.component_eq_ok_iff.2 hc, Component.tableName_eq_ok_iff.2 htable, hidentity,
      hversion, hplain, hlocalized, hassigns, rfl⟩⟩

theorem updatesRow_of_updateStatement {nlsProperties : Option (List Identifier)}
    (h : env.updateStatement id type nlsProperties = .ok s) :
    ∃ c, env.registry.find? type = some c ∧ s.UpdatesRow c (nlsProperties.getD []) := by
  obtain ⟨sql, hsql, rfl⟩ := updateStatement_eq_ok_iff.1 h
  obtain ⟨c, table, identity, version, plain, localized, hc, htable, hidentity, hversion, hplain,
    hlocalized, -, rfl⟩ := updateSql_eq_ok_iff.1 hsql
  have hset := Component.map_rowColumn_of_set hplain hlocalized
  have hkey := Component.map_rowColumn_of_key hidentity hversion
  have hcount : version.map (·.name) = c.versionColumn?.map (·.column) := by
    rw [← Component.map_rowColumn_of_versionColumn hversion, Option.map_map]
    rfl
  have hassignments : Slot.texts 1 ((plain ++ localized).map (·.ownSlot none)) ++
      (version.map (·.name)).toList.map Sql.increment = c.assignments (nlsProperties.getD []) := by
    rw [Slot.texts_map_ownSlot, hset, hcount, Option.toList_map, List.map_map]
    rfl
  have hlength : ((plain ++ localized).map (·.ownSlot none)).length =
      (c.setColumns (nlsProperties.getD [])).length := by
    rw [← hset, List.length_map, List.length_map]
  refine ⟨c, Registry.component_eq_ok_iff.1 hc, ?_, ?_⟩
  · refine ⟨table, (plain ++ localized).map (·.ownSlot none),
      (identity ++ version.toList).map (·.ownSlot none), (Component.tableName_eq_ok_iff.1 htable).1,
      ?_, ?_, ?_, ?_⟩
    · exact congrArg (Sql.update table _ · _) hcount
    · rw [MappedColumn.map_column_ownSlot, hset]
    · rw [MappedColumn.map_column_ownSlot, hkey]
    · refine (Sql.text_update ..).trans ?_
      rw [hassignments, Slot.texts_map_ownSlot, hkey, hlength]
      rfl
  · refine (Sql.map_property_parameters _).trans ?_
    refine List.map_append.trans ?_
    rw [MappedColumn.map_property_ownSlot, MappedColumn.map_property_ownSlot, hset, hkey,
      List.map_append]

end Environment

namespace StatementFactory

/-- An update is compiled exactly where its component can be updated, with every assignment in its
place. -/
theorem update_exact (env : Environment) (type : ComponentType)
    (nlsProperties : Option (List Identifier)) :
    ((∃ s, dispatch defaults env (StatementKey.mk type (.update nlsProperties)).text = .ok s) ↔
      (∀ names ∈ nlsProperties, names.Nodup) ∧
        ∃ c, env.registry.find? type = some c ∧ c.CanUpdate (nlsProperties.getD [])) ∧
    ∀ s, dispatch defaults env (StatementKey.mk type (.update nlsProperties)).text = .ok s →
      ∃ c, env.registry.find? type = some c ∧ s.UpdatesRow c (nlsProperties.getD []) := by
  constructor
  · rw [← Environment.exists_updateSql_iff]
    simp only [dispatch_text_eq_ok_iff, exists_and_left]
    refine and_congr_right fun _ => ?_
    constructor
    · rintro ⟨s, hs⟩
      obtain ⟨sql, hsql, -⟩ := Environment.updateStatement_eq_ok_iff.1 hs
      exact ⟨sql, hsql⟩
    · rintro ⟨sql, hsql⟩
      exact ⟨_, Environment.updateStatement_eq_ok_iff.2 ⟨sql, hsql, rfl⟩⟩
  · intro s hs
    exact Environment.updatesRow_of_updateStatement (dispatch_text_eq_ok_iff.1 hs).2

end StatementFactory

end KeyedSql
