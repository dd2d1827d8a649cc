import KeyedSql.Proofs.Compile.Dispatch
import KeyedSql.Proofs.Sql.Characters

/-!
# Where the names in a statement come from

A statement names tables and columns that are declared, fixed aliases, and what its key says of join
tables and their columns. Nothing else of a key reaches the statement, and what does has been read
as identifiers; so where all declared names are within a class of characters that has those of
identifiers, every name of a statement is.
-/

namespace KeyedSql

open Outcome Text

/-- The steps of the joins that a request asks for. -/
def Request.joins : Request → List JoinStep
  | .findComponentsByJoinTable search .. => search.joins
  | .findEntityById | .findComponentsBy .. | .insert | .update _ | .delete | .deleteEntityById
  | .deleteComponentsBy _ | .findNlsColumn _ => []

/-- The ways in which a name can come into a statement. -/
inductive NameOrigin (r : Registry) (joins : List JoinStep) : String → Prop where
  | table {c : Component} (hc : c ∈ r.components) {name : String} (hname : c.table = some name) :
    NameOrigin r joins name
  | column {column : MappedColumn} (hcolumn : r.DeclaresColumn column) :
    NameOrigin r joins column.name
  | readAlias : NameOrigin r joins readAlias
  | startAlias : NameOrigin r joins startAlias
  | joinAlias (number : Nat) : NameOrigin r joins (joinAlias number)
  | joinTable {step : JoinStep} (hstep : step ∈ joins) : NameOrigin r joins step.table.text
  | joinColumn {step : JoinStep} (hstep : step ∈ joins) {name : Identifier}
    (hname : name ∈ step.sourceColumns ++ step.targetColumns) : NameOrigin r joins name.text

/-- The names of all declared tables and columns are within the class. -/
structure Registry.NamesWithin (r : Registry) (P : Char → Prop) : Prop where
  table : ∀ c ∈ r.components, ∀ name ∈ c.table, Within P name
  column : ∀ c ∈ r.components, ∀ p ∈ c.properties, ∀ decl ∈ p.column, Within P decl.name
  localizedColumn : ∀ c ∈ r.components, ∀ p ∈ c.properties, ∀ decl ∈ p.localizedColumn,
    Within P decl.name

instance {P : Char → Prop} [DecidablePred P] (s : String) : Decidable (Within P s) :=
  List.decidableBAll P s.toList

theorem Registry.namesWithin_iff {r : Registry} {P : Char → Prop} :
    r.NamesWithin P ↔ ∀ c ∈ r.components, (∀ name ∈ c.table, Within P name) ∧
      ∀ p ∈ c.properties, (∀ decl ∈ p.column, Within P decl.name) ∧
        ∀ decl ∈ p.localizedColumn, Within P decl.name :=
  ⟨fun h c hc => ⟨h.table c hc, fun p hp => ⟨h.column c hc p hp, h.localizedColumn c hc p hp⟩⟩,
    fun h => ⟨fun c hc => (h c hc).1, fun c hc p hp => ((h c hc).2 p hp).1,
      fun c hc p hp => ((h c hc).2 p hp).2⟩⟩

instance {r : Registry} {P : Char → Prop} [DecidablePred P] : Decidable (r.NamesWithin P) :=
  decidable_of_iff' _ Registry.namesWithin_iff

/-! ## Names within a class -/

theorem Registry.NamesWithin.within_name {r : Registry} {P : Char → Prop} (h : r.NamesWithin P)
    {column : MappedColumn} (hcolumn : r.DeclaresColumn column) : Within P column.name := by
  obtain ⟨c, hc, hp, hdeclared⟩ := hcolumn
  unfold MappedColumn.IsDeclared at hdeclared
  split_ifs at hdeclared
  · exact h.localizedColumn c hc column.property hp column.decl hdeclared
  · exact h.column c hc column.property hp column.decl hdeclared

theorem Identifier.within_text {P : Char → Prop} (hP : ∀ c, Token.isPart c = true → P c)
    (name : Identifier) : Within P name.text :=
  fun c hc => hP c (Token.isPart_of_mem_of_isIdentifier name.isIdentifier_text c hc)

theorem NameOrigin.within {r : Registry} {joins : List JoinStep} {P : Char → Prop}
    (hnames : r.NamesWithin P) (hP : ∀ c, Token.isPart c = true → P c) {name : String}
    (h : NameOrigin r joins name) : Within P name := by
  have hfixed : ∀ s : String, s.toList.all Token.isPart = true → Within P s :=
    fun s hs c hc => hP c (List.all_eq_true.1 hs c hc)
  cases h with
  | table hc hname => exact hnames.table _ hc name hname
  | column hcolumn => exact hnames.within_name hcolumn
  | readAlias => exact hfixed _ (by decide)
  | startAlias => exact hfixed _ (by decide)
  | joinAlias number =>
    refine within_append.2 ⟨hfixed _ (by decide), fun c hc => hP c ?_⟩
    simp [Token.isPart, isDigit_of_mem_toString hc]
  | joinTable => exact Identifier.within_text hP _
  | joinColumn => exact Identifier.within_text hP _

/-! ## The names of the parts -/

section Parts

variable {r : Registry} {joins : List JoinStep}

theorem Registry.origin_of_component {type : ComponentType} {c : Component} {table : String}
    (hc : r.component type = .ok c) (htable : c.tableName = .ok table) :
    NameOrigin r joins table :=
  .table (mem_of_component hc) (Component.tableName_eq_ok_iff.1 htable).1

theorem Registry.origin_of_readTable {type : ComponentType} {c : Component} {table : String}
    (hc : r.component type = .ok c) (htable : c.tableName = .ok table) :
    ∀ name ∈ (TableSource.mk table readAlias []).names, NameOrigin r joins name :=
  List.forall_mem_cons.2 ⟨origin_of_component hc htable, List.forall_mem_singleton.2 .readAlias⟩

theorem MappedColumn.origin_under {column : MappedColumn} (hcolumn : r.DeclaresColumn column)
    {qualifier : Option String} (hqualifier : ∀ name ∈ qualifier, NameOrigin r joins name) :
    ∀ name ∈ (column.under qualifier).names, NameOrigin r joins name := by
  refine List.forall_mem_cons.2 ⟨.column hcolumn, fun name hname => ?_⟩
  exact hqualifier name (Option.mem_toList.1 hname)

theorem origin_readAlias : ∀ name ∈ some readAlias, NameOrigin r joins name := by
  rintro name ⟨⟩
  exact .readAlias

theorem Request.origin_of_mem_boundQualifier {request : Request} :
    ∀ name ∈ request.boundQualifier, NameOrigin r joins name := by
  intro name hname
  cases request <;> cases hname
  case findComponentsByJoinTable => exact .startAlias
  all_goals exact .readAlias

theorem Registry.origin_of_pathColumns {type : ComponentType} {qualifier : String}
    (hqualifier : NameOrigin r joins qualifier) {paths : List PropertyPath}
    {columns : List ColumnName} (h : r.pathColumns type qualifier paths = .ok columns) :
    ∀ column ∈ columns, ∀ name ∈ column.names, NameOrigin r joins name := by
  intro column hcolumn
  obtain ⟨path, -, hpath⟩ := (mem_iff_of_mapM_eq_ok h).1 hcolumn
  obtain ⟨found, hfound, hpath⟩ := bind_eq_ok_iff.1 hpath
  cases hpath
  refine MappedColumn.origin_under (declaresColumn_of_columnAt hfound) ?_
  rintro name ⟨⟩
  exact hqualifier

theorem Registry.origin_of_orderTerms {type : ComponentType} {orderBy : List OrderEntry}
    {terms : List OrderTerm} (h : r.orderTerms type (some readAlias) orderBy = .ok terms) :
    ∀ term ∈ terms, ∀ name ∈ term.column.names, NameOrigin r joins name := by
  intro term hterm
  obtain ⟨entry, -, hentry⟩ := (mem_iff_of_mapM_eq_ok h).1 hterm
  obtain ⟨found, hfound, hentry⟩ := bind_eq_ok_iff.1 hentry
  cases hentry
  exact MappedColumn.origin_under (declaresColumn_of_columnAt hfound) origin_readAlias

theorem Identifier.origin_of_mem_columnsUnder {step : JoinStep} (hstep : step ∈ joins)
    {names : List Identifier} (hnames : names ⊆ step.sourceColumns ++ step.targetColumns)
    (number : Nat) : ∀ column ∈ columnsUnder (joinAlias number) names,
      ∀ name ∈ column.names, NameOrigin r joins name := by
  intro column hcolumn
  obtain ⟨name, hname, rfl⟩ := List.mem_map.1 hcolumn
  refine List.forall_mem_cons.2 ⟨.joinColumn hstep (hnames hname), ?_⟩
  exact List.forall_mem_singleton.2 (.joinAlias number)

theorem JoinedTable.origin_of_pairUp {place : JoinPlace} {columns previous : List ColumnName}
    {pairs : List (ColumnName × ColumnName)} (hpairs : pairUp place columns previous = .ok pairs)
    (hcolumns : ∀ column ∈ columns, ∀ name ∈ column.names, NameOrigin r joins name)
    (hprevious : ∀ column ∈ previous, ∀ name ∈ column.names, NameOrigin r joins name)
    {table qualifier : String} (htable : NameOrigin r joins table)
    (hqualifier : NameOrigin r joins qualifier) :
    ∀ name ∈ (JoinedTable.mk table qualifier pairs).names, NameOrigin r joins name := by
  obtain ⟨-, rfl⟩ := pairUp_eq_ok_iff.1 hpairs
  refine List.forall_mem_cons.2 ⟨htable, List.forall_mem_cons.2 ⟨hqualifier, ?_⟩⟩
  rw [List.forall_mem_flatMap]
  intro p hp
  obtain ⟨hcolumn, hprevious'⟩ := List.of_mem_zip hp
  exact List.forall_mem_append.2 ⟨hcolumns p.1 hcolumn, hprevious p.2 hprevious'⟩

/-- The names of a chain come from its steps and from what stands before it. -/
theorem origin_of_joinSteps {steps : List JoinStep} (hsteps : steps ⊆ joins) {number : Nat}
    {previous : List ColumnName}
    (hprevious : ∀ column ∈ previous, ∀ name ∈ column.names, NameOrigin r joins name)
    {joined : List JoinedTable × List ColumnName}
    (h : joinSteps number previous steps = .ok joined) :
    (∀ table ∈ joined.1, ∀ name ∈ table.names, NameOrigin r joins name) ∧
      ∀ column ∈ joined.2, ∀ name ∈ column.names, NameOrigin r joins name := by
  induction steps generalizing number previous joined with
  | nil =>
    cases h
    exact ⟨by simp, hprevious⟩
  | cons step steps ih =>
    obtain ⟨pairs, rest, hpairs, hrest, rfl⟩ := joinSteps_cons_eq_ok_iff.1 h
    obtain ⟨hstep, hsteps⟩ := List.cons_subset.1 hsteps
    obtain ⟨htables, hlast⟩ := ih hsteps
      (Identifier.origin_of_mem_columnsUnder hstep (List.subset_append_right _ _) number) hrest
    refine ⟨List.forall_mem_cons.2 ⟨?_, htables⟩, hlast⟩
    exact JoinedTable.origin_of_pairUp hpairs
      (Identifier.origin_of_mem_columnsUnder hstep (List.subset_append_left _ _) number) hprevious
      (.joinTable hstep) (.joinAlias number)

theorem Registry.origin_of_joinSource {type : ComponentType} {c : Component}
    (hc : r.component type = .ok c) {search : JoinSearch} {source : TableSource}
    (h : r.joinSource c search = .ok source) :
    ∀ name ∈ source.names, NameOrigin r search.joins name := by
  obtain ⟨start, sourceTable, targetTable, columns, joined, targets, pairs, hstart, hsourceTable,
    htargetTable, hcolumns, hjoined, htargets, hpairs, rfl⟩ := joinSource_eq_ok_iff.1 h
  obtain ⟨htables, hlast⟩ := origin_of_joinSteps (List.Subset.refl _)
    (origin_of_pathColumns .startAlias hcolumns) hjoined
  refine List.forall_mem_cons.2 ⟨origin_of_component hstart hsourceTable, ?_⟩
  refine List.forall_mem_cons.2 ⟨.startAlias, ?_⟩
  rw [List.forall_mem_flatMap, List.forall_mem_append]
  refine ⟨htables, List.forall_mem_singleton.2 ?_⟩
  exact JoinedTable.origin_of_pairUp hpairs (origin_of_pathColumns .readAlias htargets) hlast
    (origin_of_component hc htargetTable) .readAlias

theorem Component.origin_of_targetSource {type : ComponentType} {c : Component}
    (hc : r.component type = .ok c) {source : TableSource} (h : c.targetSource = .ok source) :
    ∀ name ∈ source.names, NameOrigin r joins name := by
  obtain ⟨table, htable, rfl⟩ := targetSource_eq_ok_iff.1 h
  exact Registry.origin_of_readTable hc htable

theorem Component.origin_of_cancelledColumn {c : Component} (hc : c ∈ r.components)
    {ignoreCancel : Bool} {cancelled : Option ColumnName}
    (h : c.cancelledColumn ignoreCancel = .ok cancelled) :
    ∀ column ∈ cancelled.toList, ∀ name ∈ column.names, NameOrigin r joins name := by
  obtain ⟨-, rfl⟩ | ⟨-, column, hcolumn, rfl⟩ := cancelledColumn_eq_ok_iff.1 h
  · simp
  · refine List.forall_mem_singleton.2 ?_
    exact MappedColumn.origin_under ⟨c, hc, declaresColumn_of_cancelColumn hcolumn⟩ origin_readAlias

/-- Bound values are named as their columns are. -/
theorem Sql.Binds.origin {c : Component} (hc : c ∈ r.components) {request : Request} {sql : Sql}
    (h : sql.Binds r c request) :
    ∀ slot ∈ sql.slots, ∀ name ∈ slot.column.names, NameOrigin r joins name := by
  have hslots : ∀ {columns : List MappedColumn} {slots : List Slot},
      (∀ column ∈ columns, r.DeclaresColumn column) →
      List.Forall₂ (Slot.IsFor request.boundQualifier) columns slots →
      ∀ slot ∈ slots, ∀ name ∈ slot.column.names, NameOrigin r joins name := by
    intro columns slots hcolumns hfor
    induction hfor with
    | nil => simp
    | cons hslot hslots ih =>
      obtain ⟨property, rfl⟩ := hslot
      obtain ⟨hcolumn, hcolumns⟩ := List.forall_mem_cons.1 hcolumns
      refine List.forall_mem_cons.2 ⟨?_, ih hcolumns⟩
      exact MappedColumn.origin_under hcolumn Request.origin_of_mem_boundQualifier
  obtain ⟨assigned, hassigned, hassigned'⟩ := h.assigned
  obtain ⟨conditions, hconditions, hconditions'⟩ := h.conditions
  rw [slots_eq, List.forall_mem_append]
  refine ⟨hslots (fun column hcolumn => ?_) hassigned', hslots ?_ hconditions'⟩
  · exact ⟨c, hc, Component.declaresColumn_of_mem_assignedColumns hassigned column hcolumn⟩
  · exact Registry.declaresColumn_of_mem_conditionColumns hc hconditions

end Parts

/-! ## The names of statements -/

namespace Environment

variable {env : Environment} {id : String} {s : Statement}

theorem origin_of_findStatement {joins : List JoinStep} {c : Component}
    (hc : c ∈ env.registry.components) {plan : FindPlan} {cache : CacheUse}
    (h : env.findStatement id c plan cache = .ok s)
    (hsource : ∀ name ∈ plan.source.names, NameOrigin env.registry joins name)
    (hslots : ∀ slot ∈ s.sql.slots, ∀ name ∈ slot.column.names,
      NameOrigin env.registry joins name) :
    ∀ name ∈ s.sql.names, NameOrigin env.registry joins name := by
  obtain ⟨cancelled, columns, shape, order, hcancelled, hcolumns, -, horder, rfl⟩ :=
    findStatement_eq_ok_iff.1 h
  have hselected : ∀ column ∈ columns.map (·.under (some readAlias)), ∀ name ∈ column.names,
      NameOrigin env.registry joins name := by
    rw [List.forall_mem_map]
    intro column hcolumn
    exact MappedColumn.origin_under
      ⟨c, hc, Component.declaresColumn_of_mem_rowColumns hcolumns hcolumn⟩ origin_readAlias
  simp only [Statement.ofRead, Sql.names, List.forall_mem_append, List.forall_mem_flatMap]
  exact ⟨⟨⟨⟨hselected, hsource⟩, hslots⟩, Component.origin_of_cancelledColumn hc hcancelled⟩,
    Registry.origin_of_orderTerms horder⟩

/-- Every name of a statement has an origin; the key gives away its joins alone. -/
theorem origin_of_statementOf {key : StatementKey} (h : env.statementOf id key = .ok s) :
    ∀ name ∈ s.sql.names, NameOrigin env.registry key.request.joins name := by
  -- Bound values are the same matter for all requests; tables, sources and versions are not.
  obtain ⟨c, hc, hbinds⟩ := binds_of_statementOf h
  have hmem : c ∈ env.registry.components := Registry.mem_of_component hc
  have hslots : ∀ slot ∈ s.sql.slots, ∀ name ∈ slot.column.names,
      NameOrigin env.registry key.request.joins name := hbinds.origin hmem
  obtain ⟨type, request⟩ := key
  cases request with
  | insert =>
    obtain ⟨c, table, columns, generation, hc, htable, -, -, rfl⟩ := insertStatement_eq_ok_iff.1 h
    refine List.forall_mem_cons.2 ⟨Registry.origin_of_component hc htable, ?_⟩
    exact List.forall_mem_flatMap.2 hslots
  | update nlsProperties =>
    obtain ⟨sql, hsql, rfl⟩ := updateStatement_eq_ok_iff.1 h
    obtain ⟨c, table, identity, version, plain, localized, hc, htable, -, hversion, -, -, -, rfl⟩ :=
      updateSql_eq_ok_iff.1 hsql
    obtain ⟨hassigned, hconditions⟩ := List.forall_mem_append.1 hslots
    simp only [Statement.ofWrite, Sql.names, List.forall_mem_cons, List.forall_mem_append,
      List.forall_mem_flatMap]
    refine ⟨Registry.origin_of_component hc htable, ⟨hassigned, fun name hname => ?_⟩, hconditions⟩
    obtain ⟨column, rfl, rfl⟩ := Option.map_eq_some_iff.1 (Option.mem_toList.1 hname)
    exact .column
      ⟨c, Registry.mem_of_component hc, Component.declaresColumn_of_versionColumn hversion⟩
  | delete | deleteEntityById | deleteComponentsBy =>
    obtain ⟨c, table, conditions, hc, htable, -, rfl⟩ := deleteStatement_eq_ok_iff.1 h
    refine List.forall_mem_cons.2 ⟨Registry.origin_of_component hc htable, ?_⟩
    exact List.forall_mem_flatMap.2 hslots
  | findEntityById =>
    obtain ⟨c, cache, identity, source, hc, -, -, hsource, hfind⟩ := findByIdStatement_eq_ok_iff.1 h
    exact origin_of_findStatement (Registry.mem_of_component hc) hfind
      (Component.origin_of_targetSource hc hsource) hslots
  | findComponentsBy properties orderBy ignoreCancel =>
    obtain ⟨c, cache, slots, source, hc, -, -, hsource, hfind⟩ := findByStatement_eq_ok_iff.1 h
    exact origin_of_findStatement (Registry.mem_of_component hc) hfind
      (Component.origin_of_targetSource hc hsource) hslots
  | findComponentsByJoinTable search orderBy ignoreCancel =>
    obtain ⟨c, cache, source, slots, hc, -, hsource, -, hfind⟩ := findByJoinStatement_eq_ok_iff.1 h
    exact origin_of_findStatement (Registry.mem_of_component hc) hfind
      (Registry.origin_of_joinSource hc hsource) hslots
  | findNlsColumn property =>
    obtain ⟨c, table, p, column, identity, cache, hc, htable, hp, hcolumn, -, -, rfl⟩ :=
      localizedColumnStatement_eq_ok_iff.1 h
    have hselected : env.registry.DeclaresColumn column := ⟨c, Registry.mem_of_component hc,
      Component.declaresColumn_of_localizedColumn (Component.mem_of_property hp) hcolumn⟩
    have hsource : ∀ name ∈ (TableSource.mk table readAlias []).names,
        NameOrigin env.registry [] name := Registry.origin_of_readTable hc htable
    simp only [Statement.ofRead, Sql.names, List.forall_mem_append, List.forall_mem_flatMap]
    exact ⟨⟨⟨⟨List.forall_mem_singleton.2 (MappedColumn.origin_under hselected origin_readAlias),
      hsource⟩, hslots⟩, by simp⟩, by simp⟩

end Environment

/-! ## No text of a key is copied into a statement -/

namespace StatementFactory

/-- Where declared names are made of the characters of identifiers, statements add a few signs to
them. -/
theorem characters_of_dispatch {env : Environment} {key : String} {s : Statement}
    (hnames : env.registry.NamesWithin fun c => Token.isPart c = true)
    (h : dispatch defaults env key = .ok s) :
    (∀ c ∈ s.text.toList, isSqlChar c = true) ∧
      (∀ c ∈ s.text.toList, c ∉ sqlDelimiters ∧ ' ' ≤ c ∧ c ≤ '~') ∧
        ∃ k : StatementKey, k.WellFormed ∧ k.text = key ∧
          ∀ name ∈ s.sql.names, NameOrigin env.registry k.request.joins name := by
  obtain ⟨k, hwf, htext, hstatement⟩ := dispatch_defaults_eq_ok_iff.1 h
  have horigin := Environment.origin_of_statementOf hstatement
  have hwithin : ∀ name ∈ s.sql.names, Within (fun c => isSqlChar c = true) name := by
    intro name hname
    refine ((horigin name hname).within hnames fun _ => id).mono fun c hc => ?_
    exact isSqlChar_of_isFixedChar (isFixedChar_of_isPart hc)
  have hchars : ∀ c ∈ s.text.toList, isSqlChar c = true :=
    Sql.within_text (fun _ => isSqlChar_of_isFixedChar) (by decide) hwithin
  have hsafe : ∀ c ∈ s.text.toList, c ∉ sqlDelimiters := by
    intro c hc hdelimiter
    have hchar := hchars c hc
    rw [isSqlChar_eq_false_of_mem_sqlDelimiters hdelimiter] at hchar
    cases hchar
  exact ⟨hchars, fun c hc => ⟨hsafe c hc, printable_of_isSqlChar (hchars c hc)⟩,
    k, hwf, htext, horigin⟩

/-- A chain of joins, whose table and columns are named by the key alone. -/
theorem characters_of_dispatch_railway :
    ∃ s, dispatch defaults .railway ("a.Wagon/findComponentsByJoinTable?sourceComponent=a.Train" ++
        "&sourceProperties=code&targetProperties=id&join=T_W;TRAIN;WAGON") = .ok s ∧
      s.text = "SELECT t.ID FROM TRAIN s INNER JOIN T_W j1 ON j1.TRAIN = s.CODE " ++
        "INNER JOIN WAGON t ON t.ID = j1.WAGON WHERE s.CODE = ?1" ∧
      Environment.railway.registry.NamesWithin (fun c => Token.isPart c = true) ∧
      ∀ c ∈ s.text.toList, isSqlChar c = true := by
  have hnames : Environment.railway.registry.NamesWithin fun c => Token.isPart c = true := by
    decide
  have htext : (dispatch defaults .railway
      ("a.Wagon/findComponentsByJoinTable?sourceComponent=a.Train" ++
        "&sourceProperties=code&targetProperties=id&join=T_W;TRAIN;WAGON")).map (·.text) =
      .ok ("SELECT t.ID FROM TRAIN s INNER JOIN T_W j1 ON j1.TRAIN = s.CODE " ++
        "INNER JOIN WAGON t ON t.ID = j1.WAGON WHERE s.CODE = ?1") := by
    decide +kernel
  obtain ⟨s, hs, htext⟩ := map_eq_ok_iff.1 htext
  exact ⟨s, hs, htext, hnames, (characters_of_dispatch hnames hs).1⟩

end StatementFactory

end KeyedSql
