import KeyedSql.Proofs.Compile.Caching
import KeyedSql.Proofs.Compile.Updates
import KeyedSql.Proofs.Links.Walks
import KeyedSql.Proofs.Schema.Paths

/-!
# Finders by properties

When rows of a component can be looked for by the values at the ends of some paths, and by which
text. `Registry.CanFindBy` collects what the declarations must have, in no order of checks. That the
finder can tell whether its rows are localized need not be asked for: where all links can be
followed, the search for localized columns comes to no collection of a wrong type either.
-/

namespace KeyedSql

open Outcome

/-! ## Columns at the ends of paths -/

namespace Registry

variable {r : Registry} {type : ComponentType} {path : PropertyPath} {column : RowColumn}

/-- The path leads from a component to a property that is compared by the column: by its plain one
or, where it has none, by its localized one. -/
def PathColumn (r : Registry) (type : ComponentType) (path : PropertyPath) (column : RowColumn) :
    Prop :=
  ∃ start owner p, r.find? type = some start ∧ r.Leads start path.leading owner ∧
    owner.find? path.last.text = some p ∧ p.compared? = some column ∧ column.IsUsable

theorem exists_columnAt_iff :
    (∃ found, r.columnAt type path = .ok found ∧ found.rowColumn = column) ↔
      r.PathColumn type path column := by
  simp only [columnAt, bind_eq_ok_iff, propertyAt_eq_ok_iff_leads]
  constructor
  · rintro ⟨found, ⟨target, ⟨start, hstart, hleads, hp⟩, hfound⟩, hcolumn⟩
    obtain ⟨hcompared, husable⟩ := Component.exists_comparedColumn_iff.1 ⟨found, hfound, hcolumn⟩
    exact ⟨start, target.owner, target.property, hstart, hleads, hp, hcompared, husable⟩
  · rintro ⟨start, owner, p, hstart, hleads, hp, hcompared, husable⟩
    obtain ⟨found, hfound, hcolumn⟩ :=
      (@Component.exists_comparedColumn_iff owner p column).2 ⟨hcompared, husable⟩
    exact ⟨found, ⟨⟨owner, p⟩, ⟨start, hstart, hleads, hp⟩, hfound⟩, hcolumn⟩

theorem exists_columnAt_eq_ok_iff :
    (∃ found, r.columnAt type path = .ok found) ↔ ∃ column, r.PathColumn type path column :=
  exists_eq_ok_iff_of_image fun _ => exists_columnAt_iff

theorem exists_pathSlots_iff {qualifier : Option String} {paths : List PropertyPath} :
    (∃ slots, r.pathSlots type qualifier paths = .ok slots) ↔
      ∀ path ∈ paths, ∃ column, r.PathColumn type path column := by
  rw [pathSlots, exists_mapM_return_eq_ok_iff]
  exact forall₂_congr fun path _ => exists_columnAt_eq_ok_iff

theorem exists_orderTerms_iff {qualifier : Option String} {orderBy : List OrderEntry} :
    (∃ terms, r.orderTerms type qualifier orderBy = .ok terms) ↔
      ∀ entry ∈ orderBy, ∃ column, r.PathColumn type entry.property column := by
  rw [orderTerms, exists_mapM_return_eq_ok_iff]
  exact forall₂_congr fun entry _ => exists_columnAt_eq_ok_iff

end Registry

/-! ## What a finder by properties is about -/

namespace Component

/-- The column that marks cancelled rows: that of the first property with the mark. -/
def cancelColumn? (c : Component) : Option RowColumn :=
  c.cancelMark?.bind (·.compared?)

/-- The condition that leaves out cancelled rows, where they are to be left out. -/
def cancelConditions (c : Component) (ignoreCancel : Bool) : List String :=
  if ignoreCancel then
    c.cancelColumn?.toList.map fun column =>
      "(t." ++ column.column ++ " IS NULL OR t." ++ column.column ++ " = 0)"
  else []

end Component

/-- The clause that sorts by columns, each in the direction of its entry. -/
def OrderEntry.sortClause (orderBy : List OrderEntry) (columns : List RowColumn) : String :=
  if orderBy.isEmpty then ""
  else
    " ORDER BY " ++ ", ".intercalate (List.zipWith
      (fun entry column => "t." ++ column.column ++ " " ++ entry.direction.keyword) orderBy columns)

/-- What must be declared for rows to be looked for by some properties; only the first mark of
cancelled rows counts. -/
structure Registry.CanFindBy (r : Registry) (c : Component) (properties : List PropertyPath)
    (orderBy : List OrderEntry) (ignoreCancel : Bool) : Prop where
  table : ∃ table, c.table = some table ∧ Text.isBlank table = false
  links : ∃ links, r.reachable c.name = .ok links
  properties : ∀ path ∈ properties, ∃ column, r.PathColumn c.name path column
  orderBy : ∀ entry ∈ orderBy, ∃ column, r.PathColumn c.name entry.property column
  usable : ∀ column ∈ c.declaredColumns, column.IsUsable
  mapped : c.declaredColumns ≠ []
  cancel : ignoreCancel = true → ∃ p, c.cancelMark? = some p ∧ p.IsComparable

/-- The statement looks for rows of the component by the columns at the ends of the paths, bound in
the order of the paths. -/
structure Statement.FindsBy (s : Statement) (r : Registry) (c : Component)
    (properties : List PropertyPath) (orderBy : List OrderEntry) (ignoreCancel : Bool) : Prop where
  exists_text : ∃ table columns sorted, c.table = some table ∧
    List.Forall₂ (r.PathColumn c.name) properties columns ∧
      List.Forall₂ (fun entry => r.PathColumn c.name entry.property) orderBy sorted ∧
        s.text = "SELECT " ++
          ", ".intercalate (c.declaredColumns.map fun column => "t." ++ column.column) ++
            " FROM " ++ table ++ " t WHERE " ++
              " AND ".intercalate ((RowColumn.places 1 columns).map ("t." ++ ·) ++
                c.cancelConditions ignoreCancel) ++ OrderEntry.sortClause orderBy sorted
  boundProperties_eq : s.boundProperties = properties.map (·.text)

/-! ## When there is a finder -/

namespace Component

variable {c : Component} {p : Property} {ignoreCancel : Bool}

theorem exists_columnsOf_iff :
    (∃ columns, c.columnsOf p = .ok columns) ↔ ∀ column ∈ p.declaredColumns, column.IsUsable := by
  have hplain : (∃ found, c.plainColumn p = .ok found) ↔
      ∀ column ∈ p.plain?.toList, column.IsUsable := by
    simp only [Option.mem_toList]
    exact exists_plainColumn_iff
  have hlocalized : (∃ found, c.localizedColumn p = .ok found) ↔
      ∀ column ∈ p.localized?.toList, column.IsUsable := by
    simp only [Option.mem_toList]
    exact MappedColumn.exists_mapM_ofDecl_iff
  rw [Property.declaredColumns, List.forall_mem_append, ← hplain, ← hlocalized]
  simp only [columnsOf_eq_ok_iff]
  constructor
  · rintro ⟨_, plain, localized, hplain, hlocalized, -⟩
    exact ⟨⟨plain, hplain⟩, localized, hlocalized⟩
  · rintro ⟨⟨plain, hplain⟩, localized, hlocalized⟩
    exact ⟨_, plain, localized, hplain, hlocalized, rfl⟩

theorem exists_allColumns_iff :
    (∃ columns, c.allColumns = .ok columns) ↔ ∀ column ∈ c.declaredColumns, column.IsUsable := by
  rw [allColumns, exists_map_eq_ok_iff, exists_mapM_eq_ok_iff, declaredColumns,
    List.forall_mem_flatMap]
  exact forall₂_congr fun p _ => exists_columnsOf_iff

theorem exists_rowColumns_iff :
    (∃ columns, c.rowColumns = .ok columns) ↔
      (∀ column ∈ c.declaredColumns, column.IsUsable) ∧ c.declaredColumns ≠ [] := by
  have hne : ∀ {columns}, c.allColumns = .ok columns → (columns ≠ [] ↔ c.declaredColumns ≠ []) := by
    intro columns h
    rw [← map_rowColumn_of_allColumns h, ne_eq, ne_eq, List.map_eq_nil_iff]
  simp only [rowColumns_eq_ok_iff, ← exists_allColumns_iff]
  constructor
  · rintro ⟨columns, h, hcolumns⟩
    exact ⟨⟨columns, h⟩, (hne h).1 hcolumns⟩
  · rintro ⟨⟨columns, h⟩, hdeclared⟩
    exact ⟨columns, h, (hne h).2 hdeclared⟩

theorem exists_cancelledColumn_iff :
    (∃ cancelled, c.cancelledColumn ignoreCancel = .ok cancelled) ↔
      (ignoreCancel = true → ∃ p, c.cancelMark? = some p ∧ p.IsComparable) := by
  simp only [cancelledColumn_eq_ok_iff]
  cases ignoreCancel with
  | false => exact iff_of_true ⟨none, .inl ⟨rfl, rfl⟩⟩ nofun
  | true =>
    simp only [Bool.true_eq_false, false_and, true_and, false_or, forall_const,
      cancelColumn_eq_ok_iff, ← @exists_comparedColumn_iff_isComparable c]
    constructor
    · rintro ⟨_, column, ⟨p, hp, hcolumn⟩, -⟩
      exact ⟨p, hp, column, hcolumn⟩
    · rintro ⟨p, hp, column, hcolumn⟩
      exact ⟨_, column, ⟨p, hp, hcolumn⟩, rfl⟩

/-- The condition that a finder adds is the one on the declared column. -/
theorem map_notCancelled_of_cancelledColumn {cancelled : Option ColumnName}
    (h : c.cancelledColumn ignoreCancel = .ok cancelled) :
    cancelled.toList.map (·.notCancelled) = c.cancelConditions ignoreCancel := by
  rcases cancelledColumn_eq_ok_iff.1 h with ⟨rfl, rfl⟩ | ⟨rfl, column, hcolumn, rfl⟩
  · rfl
  · obtain ⟨p, hp, hcompared⟩ := cancelColumn_eq_ok_iff.1 hcolumn
    have hdeclared : c.cancelColumn? = some column.rowColumn := by
      rw [cancelColumn?, hp]
      exact (exists_comparedColumn_iff.1 ⟨column, hcompared, rfl⟩).1
    have ht : "(" ++ (readAlias ++ ".") = "(t." := rfl
    have hor : " IS NULL OR " ++ (readAlias ++ ".") = " IS NULL OR t." := rfl
    rw [cancelConditions, if_pos rfl, hdeclared, ← ht, ← hor]
    simp only [Option.toList_some, List.map_cons, List.map_nil, ColumnName.notCancelled,
      ColumnName.text, MappedColumn.under, String.append_assoc]
    rfl

end Component

/-! ## The text of a finder -/

theorem Slot.texts_eq_map_places {slots : List Slot} {columns : List RowColumn} (start : Nat)
    (h : slots.map (·.column) = columns.map fun column => ⟨some readAlias, column.column⟩) :
    Slot.texts start slots = (RowColumn.places start columns).map ("t." ++ ·) := by
  have hcolumns : Slot.texts start slots = ((slots.map (·.column)).zipIdx start).map fun p =>
      p.1.text ++ " = " ++ placeholder p.2 := by
    rw [List.zipIdx_map, List.map_map]
    rfl
  have ht : readAlias ++ "." = "t." := rfl
  have hsign : " = " ++ "?" = " = ?" := rfl
  rw [hcolumns, h, RowColumn.places, List.zipIdx_map, List.map_map, List.map_map]
  refine List.map_congr_left fun item _ => ?_
  simp only [Function.comp_apply, Prod.map_fst, Prod.map_snd, ColumnName.text, placeholder, ← ht,
    ← hsign, String.append_assoc, id]

/-- The text of a statement that reads from one table, under conditions. -/
theorem Sql.text_select_of_conditions_ne_nil {columns : List ColumnName} {table : String}
    {conditions : List Slot} {cancelled : Option ColumnName} {order : List OrderTerm}
    (h : conditions ≠ []) :
    (select columns ⟨table, readAlias, []⟩ conditions cancelled order).text =
      "SELECT " ++ ", ".intercalate (columns.map (·.text)) ++ " FROM " ++ table ++ " t WHERE " ++
        " AND ".intercalate (Slot.texts 1 conditions ++ cancelled.toList.map (·.notCancelled)) ++
          if order.isEmpty then "" else " ORDER BY " ++ ", ".intercalate (order.map (·.text)) := by
  have hwhere : " t WHERE " = " " ++ (readAlias ++ " WHERE ") := rfl
  have htext := @text_eq_of_conditions_ne_nil
    (select columns ⟨table, readAlias, []⟩ conditions cancelled order) h
  rw [lead, TableSource.text, List.map_nil, String.intercalate_singleton] at htext
  rw [htext, hwhere]
  simp only [String.append_assoc]
  rfl

namespace Registry

variable {r : Registry} {type : ComponentType} {qualifier : Option String}

theorem forall₂_pathColumn_of_mapM {α : Type} {path : α → PropertyPath} {items : List α}
    {found : List MappedColumn} (h : (items.mapM fun x => r.columnAt type (path x)) = .ok found) :
    List.Forall₂ (fun x => r.PathColumn type (path x)) items (found.map (·.rowColumn)) := by
  rw [List.forall₂_map_right_iff]
  exact (mapM_eq_ok_iff.1 h).imp fun _ column hcolumn =>
    exists_columnAt_iff.1 ⟨column, hcolumn, rfl⟩

theorem exists_columns_of_pathSlots {paths : List PropertyPath} {slots : List Slot}
    (h : r.pathSlots type qualifier paths = .ok slots) :
    ∃ columns, List.Forall₂ (r.PathColumn type) paths columns ∧
      slots.map (·.column) = columns.map (fun column => ⟨qualifier, column.column⟩) ∧
        slots.map (·.binding.property) = paths.map (·.text) := by
  obtain ⟨found, hfound, rfl⟩ := pathSlots_eq_ok_iff.1 h
  have hlength := length_eq_of_mapM_eq_ok hfound
  refine ⟨found.map (·.rowColumn), forall₂_pathColumn_of_mapM hfound, ?_, ?_⟩
  · rw [List.map_zipWith, List.map_map]
    refine zipWith_eq_map_right (fun _ _ => ?_) hlength
    rfl
  · rw [List.map_zipWith]
    refine zipWith_eq_map_left (fun _ _ => ?_) hlength
    rfl

theorem exists_columns_of_orderTerms {orderBy : List OrderEntry} {terms : List OrderTerm}
    (h : r.orderTerms type (some readAlias) orderBy = .ok terms) :
    ∃ columns, List.Forall₂ (fun entry => r.PathColumn type entry.property) orderBy columns ∧
      terms.isEmpty = orderBy.isEmpty ∧
        terms.map (·.text) = List.zipWith
          (fun entry column => "t." ++ column.column ++ " " ++ entry.direction.keyword) orderBy
            columns := by
  obtain ⟨found, hfound, rfl⟩ := mapM_return_eq_ok_iff.1 h
  have hlength := length_eq_of_mapM_eq_ok hfound
  refine ⟨found.map (·.rowColumn), forall₂_pathColumn_of_mapM hfound, ?_, ?_⟩
  · cases orderBy with
    | nil => rfl
    | cons entry orderBy =>
      cases found with
      | nil => cases hlength
      | cons column found => rfl
  · rw [List.map_zipWith, List.zipWith_map_right]
    rfl

end Registry

namespace Environment

variable {env : Environment} {id : String} {type : ComponentType} {s : Statement}
  {properties : List PropertyPath} {orderBy : List OrderEntry} {ignoreCancel : Bool}

theorem exists_findByStatement_iff :
    (∃ s, env.findByStatement id type properties orderBy ignoreCancel = .ok s) ↔
      ∃ c, env.registry.find? type = some c ∧
        env.registry.CanFindBy c properties orderBy ignoreCancel := by
  constructor
  · rintro ⟨s, hs⟩
    obtain ⟨c, cache, conditions, source, hc, hcache, hconditions, hsource, hfind⟩ :=
      findByStatement_eq_ok_iff.1 hs
    obtain ⟨table, htable, -⟩ := Component.targetSource_eq_ok_iff.1 hsource
    obtain ⟨cancelled, columns, shape, order, hcancelled, hcolumns, -, horder, -⟩ :=
      findStatement_eq_ok_iff.1 hfind
    obtain ⟨links, hlinks, -⟩ := readCacheUse_eq_ok_iff.1 hcache
    obtain ⟨husable, hmapped⟩ := Component.exists_rowColumns_iff.1 ⟨columns, hcolumns⟩
    obtain rfl := Registry.name_of_component hc
    exact ⟨c, Registry.component_eq_ok_iff.1 hc, {
      table := ⟨table, Component.tableName_eq_ok_iff.1 htable⟩
      links := ⟨links, hlinks⟩
      properties := Registry.exists_pathSlots_iff.1 ⟨conditions, hconditions⟩
      orderBy := Registry.exists_orderTerms_iff.1 ⟨order, horder⟩
      usable := husable
      mapped := hmapped
      cancel := Component.exists_cancelledColumn_iff.1 ⟨cancelled, hcancelled⟩ }⟩
  · rintro ⟨c, hc, h⟩
    obtain rfl := Registry.name_eq_of_find? hc
    obtain ⟨table, htable⟩ := h.table
    obtain ⟨links, hlinks⟩ := h.links
    -- Nothing is asked for the search for localized columns, which the shape of the rows needs.
    obtain ⟨localized, hlocalized, -⟩ := Registry.exists_reachesLocalized_of_reachable hlinks
    obtain ⟨conditions, hconditions⟩ := Registry.exists_pathSlots_iff.2 h.properties
    obtain ⟨order, horder⟩ := Registry.exists_orderTerms_iff.2 h.orderBy
    obtain ⟨columns, hcolumns⟩ := Component.exists_rowColumns_iff.2 ⟨h.usable, h.mapped⟩
    obtain ⟨cancelled, hcancelled⟩ := Component.exists_cancelledColumn_iff.2 h.cancel
    have hshape : env.rowShape c columns = .ok ⟨c.name, columns.map (·.rowColumn), localized⟩ :=
      bind_eq_ok_iff.2 ⟨localized, hlocalized, rfl⟩
    have hsource := Component.targetSource_eq_ok_iff.2
      ⟨table, Component.tableName_eq_ok_iff.2 htable, rfl⟩
    exact ⟨_, findByStatement_eq_ok_iff.2 ⟨c, _, conditions, _, Registry.component_eq_ok_iff.2 hc,
      readCacheUse_eq_ok_iff.2 ⟨links, hlinks, rfl⟩, hconditions, hsource,
      findStatement_eq_ok_iff.2
        ⟨cancelled, columns, _, order, hcancelled, hcolumns, hshape, horder, rfl⟩⟩⟩

theorem findsBy_of_findByStatement (hproperties : properties ≠ [])
    (h : env.findByStatement id type properties orderBy ignoreCancel = .ok s) :
    ∃ c, env.registry.find? type = some c ∧
      s.FindsBy env.registry c properties orderBy ignoreCancel := by
  obtain ⟨c, cache, conditions, source, hc, -, hconditions, hsource, hfind⟩ :=
    findByStatement_eq_ok_iff.1 h
  obtain ⟨table, htable, rfl⟩ := Component.targetSource_eq_ok_iff.1 hsource
  obtain ⟨cancelled, found, shape, order, hcancelled, hfound, -, horder, rfl⟩ :=
    findStatement_eq_ok_iff.1 hfind
  obtain rfl := Registry.name_of_component hc
  obtain ⟨columns, hcolumns, hnames, hbound⟩ := Registry.exists_columns_of_pathSlots hconditions
  obtain ⟨sorted, hsorted, hempty, hterms⟩ := Registry.exists_columns_of_orderTerms horder
  have hne : conditions ≠ [] := by
    rintro rfl
    exact hproperties (List.map_eq_nil_iff.1 hbound.symm)
  refine ⟨c, Registry.component_eq_ok_iff.1 hc, ?_, ?_⟩
  · refine ⟨table, columns, sorted, (Component.tableName_eq_ok_iff.1 htable).1, hcolumns, hsorted,
      ?_⟩
    have hselected : (found.map (·.under (some readAlias))).map (·.text) =
        c.declaredColumns.map fun column => "t." ++ column.column := by
      rw [← Component.map_rowColumn_of_rowColumns hfound, List.map_map, List.map_map]
      rfl
    refine (Sql.text_select_of_conditions_ne_nil hne).trans ?_
    rw [hselected, Slot.texts_eq_map_places 1 hnames,
      Component.map_notCancelled_of_cancelledColumn hcancelled, hempty, hterms]
    rfl
  · exact (Sql.map_property_parameters _).trans hbound

/-- What is bound is decided by the paths alone. -/
theorem parameters_of_findByStatement
    (h : env.findByStatement id type properties orderBy ignoreCancel = .ok s) :
    (env.registry.pathSlots type (some readAlias) properties).map (fun slots =>
      (slots.zipIdx 1).map fun p => Parameter.mk p.2 p.1.binding) = .ok s.parameters := by
  obtain ⟨c, cache, conditions, source, -, -, hconditions, -, hfind⟩ :=
    findByStatement_eq_ok_iff.1 h
  obtain ⟨cancelled, found, shape, order, -, -, -, -, rfl⟩ := findStatement_eq_ok_iff.1 hfind
  rw [hconditions]
  rfl

end Environment

namespace StatementFactory

/-- A finder by properties is compiled exactly where rows can be looked for by them. -/
theorem findBy_exact (env : Environment) (type : ComponentType) (properties : List PropertyPath)
    (orderBy : List OrderEntry) (ignoreCancel : Bool) :
    ((∃ s, dispatch defaults env
        (StatementKey.mk type (.findComponentsBy properties orderBy ignoreCancel)).text = .ok s) ↔
      (properties ≠ [] ∧ properties.Nodup ∧ (orderBy.map (·.property)).Nodup) ∧
        ∃ c, env.registry.find? type = some c ∧
          env.registry.CanFindBy c properties orderBy ignoreCancel) ∧
    ∀ s, dispatch defaults env
        (StatementKey.mk type (.findComponentsBy properties orderBy ignoreCancel)).text = .ok s →
      (∃ c, env.registry.find? type = some c ∧
        s.FindsBy env.registry c properties orderBy ignoreCancel) ∧
      ∀ orderBy' ignoreCancel' s', dispatch defaults env
          (StatementKey.mk type (.findComponentsBy properties orderBy' ignoreCancel')).text =
            .ok s' →
        s'.parameters = s.parameters := by
  simp only [dispatch_text_eq_ok_iff, exists_and_left]
  refine ⟨and_congr_right fun _ => Environment.exists_findByStatement_iff, fun s ⟨hwf, hs⟩ => ?_⟩
  refine ⟨Environment.findsBy_of_findByStatement hwf.1 hs,
    fun orderBy' ignoreCancel' s' ⟨_, hs'⟩ => ?_⟩
  have hparameters := Environment.parameters_of_findByStatement hs
  have hparameters' := Environment.parameters_of_findByStatement hs'
  exact Except.ok.inj (hparameters'.symm.trans hparameters)

end StatementFactory

/-! ## A component with two marks -/

/-- Bookings, which two properties mark as cancelled. The first of them is not stored. -/
def Component.booking : Component where
  name := ⟨"a.Booking", by decide⟩
  table := some "BOOKING"
  cacheLinks := []
  properties := [
    { Property.ofType "id" (.scalar .int64) with
      column := some (.ofName "ID"), identity := some ⟨none, none⟩ },
    { Property.ofType "void" (.scalar .bool) with cancelFlag := true },
    { Property.ofType "canceled" (.scalar .bool) with
      column := some (.ofName "CANCELED"), cancelFlag := true }]

/-- Bookings, without caches or generators. -/
def Environment.bookings : Environment :=
  .ofRegistry ⟨[.booking], by decide⟩

/-- Cancelled bookings cannot be left out, since only the first mark counts. -/
theorem StatementFactory.not_findBy_bookings :
    ∃ id : PropertyPath, id.text = "id" ∧
      Environment.bookings.registry.find? Component.booking.name = some .booking ∧
      Environment.bookings.registry.CanFindBy .booking [id] [] false ∧
      (∃ p ∈ Component.booking.properties, p.cancelFlag = true ∧ p.IsComparable) ∧
      StatementKey.text ⟨Component.booking.name, .findComponentsBy [id] [] true⟩ =
        "a.Booking/findComponentsBy?properties=id&ignoreCancel" ∧
      ¬ ∃ s, dispatch defaults .bookings "a.Booking/findComponentsBy?properties=id&ignoreCancel" =
        .ok s := by
  let id : PropertyPath := .ofIdentifier ⟨"id", by decide⟩
  have hfound : (dispatch defaults .bookings "a.Booking/findComponentsBy?properties=id").map
      (·.text) = .ok "SELECT t.ID, t.CANCELED FROM BOOKING t WHERE t.ID = ?1" := by
    decide +kernel
  have hrefused : (dispatch defaults .bookings
      "a.Booking/findComponentsBy?properties=id&ignoreCancel").isOk = false := by
    decide +kernel
  have hkey : StatementKey.text ⟨Component.booking.name, .findComponentsBy [id] [] false⟩ =
      "a.Booking/findComponentsBy?properties=id" := by
    decide +kernel
  have hbooking : Environment.bookings.registry.find? Component.booking.name = some .booking := by
    decide
  have hcan : Environment.bookings.registry.CanFindBy .booking [id] [] false := by
    obtain ⟨s, hs, -⟩ := map_eq_ok_iff.1 hfound
    rw [← hkey, dispatch_text_eq_ok_iff] at hs
    obtain ⟨c, hc, hcan⟩ := Environment.exists_findByStatement_iff.1 ⟨s, hs.2⟩
    obtain rfl := Option.some.inj (hbooking.symm.trans hc)
    exact hcan
  refine ⟨id, by decide, hbooking, hcan, ?_, by decide +kernel, ?_⟩
  · have husable : Text.isBlank "CANCELED" = false := by decide
    refine ⟨_, List.mem_cons_of_mem _ (List.mem_cons_of_mem _ List.mem_cons_self), rfl, ?_⟩
    exact ⟨⟨"CANCELED", "canceled", false⟩, by decide, husable⟩
  · rintro ⟨s, hs⟩
    rw [hs] at hrefused
    cases hrefused

end KeyedSql
