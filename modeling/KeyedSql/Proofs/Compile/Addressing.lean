import KeyedSql.Proofs.Compile.Updates

/-!
# How rows are addressed

Updates, deletes and two of the finders look for the row of an identity, and each builds the
conditions on that row for itself. They are the same nevertheless: an update goes on counting behind
its assignments, the finders name their table by its alias, and the statements that mind the version
compare it behind the identity.
-/

namespace KeyedSql

open Outcome

/-! ## Conjuncts -/

/-- A condition that compares a column with a bound value. -/
structure Conjunct where
  column : ColumnName
  parameter : Parameter

namespace Conjunct

/-- The condition as a statement has it. -/
def text (conjunct : Conjunct) : String :=
  conjunct.column.text ++ " = " ++ placeholder conjunct.parameter.index

/-- The condition behind `n` further bound values. -/
def shift (n : Nat) (conjunct : Conjunct) : Conjunct :=
  ⟨conjunct.column, ⟨conjunct.parameter.index + n, conjunct.parameter.binding⟩⟩

/-- The condition on the column of a table that has an alias. -/
def under (qualifier : String) (conjunct : Conjunct) : Conjunct :=
  ⟨⟨some qualifier, conjunct.column.name⟩, conjunct.parameter⟩

/-- The conditions of consecutive slots, numbered from `start`. -/
def ofSlots (start : Nat) (slots : List Slot) : List Conjunct :=
  (slots.zipIdx start).map fun p => ⟨p.1.column, ⟨p.2, p.1.binding⟩⟩

theorem map_text_ofSlots (start : Nat) (slots : List Slot) :
    (ofSlots start slots).map (·.text) = Slot.texts start slots :=
  List.map_map

theorem ofSlots_append (start : Nat) (slots others : List Slot) :
    ofSlots start (slots ++ others) =
      ofSlots start slots ++ ofSlots (start + slots.length) others := by
  rw [ofSlots, List.zipIdx_append, List.map_append]
  rfl

theorem ofSlots_add (start n : Nat) (slots : List Slot) :
    ofSlots (start + n) slots = (ofSlots start slots).map (shift n) := by
  rw [ofSlots, Nat.add_comm, ← List.map_snd_add_zipIdx_eq_zipIdx, List.map_map, ofSlots,
    List.map_map]
  rfl

theorem ofSlots_map_ownSlot (start : Nat) (qualifier : String) (columns : List MappedColumn) :
    ofSlots start (columns.map (·.ownSlot (some qualifier))) =
      (ofSlots start (columns.map (·.ownSlot none))).map (under qualifier) := by
  rw [ofSlots, ofSlots, List.zipIdx_map, List.zipIdx_map, List.map_map, List.map_map, List.map_map]
  rfl

end Conjunct

/-- The bound conditions of a statement with their parameters. -/
def Sql.conjuncts (sql : Sql) : List Conjunct :=
  Conjunct.ofSlots (1 + sql.assigned.length) sql.conditions

/-- The parameters of the conditions follow those of the assigned values. -/
theorem Sql.drop_parameters (sql : Sql) :
    sql.parameters.drop sql.assigned.length = sql.conjuncts.map (·.parameter) := by
  have hassigned : ((sql.assigned.zipIdx 1).map fun p => Parameter.mk p.2 p.1.binding).length =
      sql.assigned.length := by
    rw [List.length_map, List.length_zipIdx]
  rw [parameters, slots_eq, List.zipIdx_append, List.map_append, List.drop_left' hassigned,
    conjuncts, Conjunct.ofSlots, List.map_map]
  rfl

/-- The text of a statement that has bound conditions only and sorts nothing. -/
theorem Sql.text_eq_of_conjuncts {sql : Sql} (hconditions : sql.conditions ≠ [])
    (hunbound : sql.unbound = []) (hsorting : sql.sorting = "") :
    sql.text = sql.lead ++ " WHERE " ++ " AND ".intercalate (sql.conjuncts.map (·.text)) := by
  rw [text_eq_of_conditions_ne_nil hconditions, hunbound, hsorting, List.append_nil,
    String.append_empty, conjuncts, Conjunct.map_text_ofSlots]

/-! ## The version -/

namespace Component

variable {c : Component} {p : Property} {column : MappedColumn} {identity : List MappedColumn}

/-- The type that is checked for a property is the type that is bound. -/
theorem boundType_of_comparedColumn (h : c.comparedColumn p = .ok column) :
    column.boundType = p.storedType := by
  rcases comparedColumn_eq_ok_iff.1 h with hplain | ⟨hnone, hlocalized⟩
  · obtain ⟨decl, hdecl, -, rfl⟩ := plainColumn_eq_ok_some_iff.1 hplain
    rw [Property.storedType, hdecl]
    rfl
  · obtain ⟨decl, hdecl, -, rfl⟩ := localizedColumn_eq_ok_some_iff.1 hlocalized
    rw [Property.storedType, hnone, hdecl]
    rfl

theorem boundType_of_versionColumn (h : c.versionColumn = .ok (some column)) :
    column.boundType = .scalar .int32 ∨ column.boundType = .scalar .int64 := by
  obtain ⟨found, hfound, h⟩ := versionColumn_eq_ok_iff.1 h
  obtain ⟨-, h⟩ | ⟨p, _, rfl, h, hcompared⟩ := option_mapM_eq_ok_iff.1 h
  · cases h
  · cases h
    obtain ⟨hfirst, hinteger⟩ := versionProperty_eq_ok_iff.1 hfound
    rw [boundType_of_comparedColumn hcompared]
    exact ValueType.isInteger_iff.1 (hinteger p hfirst)

theorem isSome_of_versionColumn {version : Option MappedColumn}
    (h : c.versionColumn = .ok version) : version.isSome = c.hasVersion := by
  have hlength := length_of_versionColumn h
  cases version <;> cases hversion : c.hasVersion <;> simp_all

theorem ne_nil_of_identifyingColumns (h : c.identifyingColumns = .ok identity) : identity ≠ [] := by
  have hlength := length_of_identifyingColumns h
  rintro rfl
  exact (identifyingColumns_eq_ok_iff.1 h).1 (List.eq_nil_of_length_eq_zero hlength.symm)

end Component

/-! ## The statements on one row -/

namespace Environment

variable {env : Environment} {type : ComponentType} {request : Request} {s : Statement}

/-- The statement is compiled from the key of the request. -/
def Compiles (env : Environment) (type : ComponentType) (request : Request) (s : Statement) :
    Prop :=
  StatementFactory.dispatch StatementFactory.defaults env (StatementKey.mk type request).text =
    .ok s

theorem compiles_iff :
    env.Compiles type request s ↔ request.WellFormed ∧
      env.statementOf (StatementKey.mk type request).text ⟨type, request⟩ = .ok s :=
  StatementFactory.dispatch_text_eq_ok_iff

theorem compiles_update_iff {nlsProperties : Option (List Identifier)} :
    env.Compiles type (.update nlsProperties) s ↔
      (∀ names ∈ nlsProperties, names.Nodup) ∧
        ∃ sql, env.updateSql type (nlsProperties.getD []) = .ok sql ∧
          .ofWrite (StatementKey.mk type (.update nlsProperties)).text sql none
            (env.writeCacheUse type) = s :=
  compiles_iff.trans (and_congr_right fun _ => updateStatement_eq_ok_iff)

theorem compiles_delete_iff :
    env.Compiles type .delete s ↔
      ∃ c table identity version, env.registry.component type = .ok c ∧ c.tableName = .ok table ∧
        c.identifyingColumns = .ok identity ∧ c.versionColumn = .ok version ∧
          .ofWrite (StatementKey.mk type .delete).text
            (.delete table ((identity ++ version.toList).map (·.ownSlot none))) none
              (env.writeCacheUse type) = s := by
  rw [compiles_iff, Request.WellFormed, true_and]
  refine deleteStatement_eq_ok_iff.trans ?_
  simp only [deleteConditions, bind_eq_ok_iff, pure_eq_ok_iff]
  constructor
  · rintro ⟨c, table, _, hc, htable, ⟨identity, hidentity, version, hversion, rfl⟩, hs⟩
    exact ⟨c, table, identity, version, hc, htable, hidentity, hversion, hs⟩
  · rintro ⟨c, table, identity, version, hc, htable, hidentity, hversion, hs⟩
    exact ⟨c, table, _, hc, htable, ⟨identity, hidentity, version, hversion, rfl⟩, hs⟩

theorem compiles_deleteEntityById_iff :
    env.Compiles type .deleteEntityById s ↔
      ∃ c table identity, env.registry.component type = .ok c ∧ c.tableName = .ok table ∧
        c.identifyingColumns = .ok identity ∧
          .ofWrite (StatementKey.mk type .deleteEntityById).text
            (.delete table (identity.map (·.ownSlot none))) none (env.writeCacheUse type) = s := by
  rw [compiles_iff, Request.WellFormed, true_and]
  refine deleteStatement_eq_ok_iff.trans ?_
  simp only [deleteConditions, bind_eq_ok_iff, pure_eq_ok_iff]
  constructor
  · rintro ⟨c, table, _, hc, htable, ⟨identity, hidentity, rfl⟩, hs⟩
    exact ⟨c, table, identity, hc, htable, hidentity, hs⟩
  · rintro ⟨c, table, identity, hc, htable, hidentity, hs⟩
    exact ⟨c, table, _, hc, htable, ⟨identity, hidentity, rfl⟩, hs⟩

/-- The row of an identity is looked for in the component's own table alone. -/
theorem exists_select_of_compiles
    (hrequest : request = .findEntityById ∨ ∃ property, request = .findNlsColumn property)
    (h : env.Compiles type request s) :
    ∃ c table identity columns, env.registry.component type = .ok c ∧ c.tableName = .ok table ∧
      c.identifyingColumns = .ok identity ∧
        s.sql = .select columns ⟨table, readAlias, []⟩ (identity.map (·.ownSlot (some readAlias)))
          none [] := by
  obtain ⟨-, h⟩ := compiles_iff.1 h
  rcases hrequest with rfl | ⟨property, rfl⟩
  · obtain ⟨c, cache, identity, source, hc, -, hidentity, hsource, hfind⟩ :=
      findByIdStatement_eq_ok_iff.1 h
    obtain ⟨table, htable, rfl⟩ := Component.targetSource_eq_ok_iff.1 hsource
    obtain ⟨_, columns, shape, _, hcancelled, -, -, horder, rfl⟩ := findStatement_eq_ok_iff.1 hfind
    cases hcancelled
    cases horder
    exact ⟨c, table, identity, _, hc, htable, hidentity, rfl⟩
  · obtain ⟨c, table, p, column, identity, cache, hc, htable, -, -, hidentity, -, rfl⟩ :=
      localizedColumnStatement_eq_ok_iff.1 h
    exact ⟨c, table, identity, _, hc, htable, hidentity, rfl⟩

theorem clauses_of_compiles
    (hrequest : request.operation ∈ [Operation.update, .delete, .deleteEntityById, .findEntityById,
      .findNlsColumn]) (h : env.Compiles type request s) :
    s.sql.conditions ≠ [] ∧ s.sql.unbound = [] ∧ s.sql.sorting = "" := by
  have hconditions : ∀ {c : Component} {identity : List MappedColumn} (rest : List MappedColumn)
      (qualifier : Option String), c.identifyingColumns = .ok identity →
        (identity ++ rest).map (·.ownSlot qualifier) ≠ [] := by
    intro c identity rest qualifier hidentity hnil
    have hboth := List.map_eq_nil_iff.1 hnil
    exact Component.ne_nil_of_identifyingColumns hidentity (List.append_eq_nil_iff.1 hboth).1
  cases request with
  | update nlsProperties =>
    obtain ⟨-, sql, hsql, rfl⟩ := compiles_update_iff.1 h
    obtain ⟨c, table, identity, version, plain, localized, -, -, hidentity, -, -, -, -, rfl⟩ :=
      updateSql_eq_ok_iff.1 hsql
    exact ⟨hconditions version.toList none hidentity, rfl, rfl⟩
  | delete =>
    obtain ⟨c, table, identity, version, -, -, hidentity, -, rfl⟩ := compiles_delete_iff.1 h
    exact ⟨hconditions version.toList none hidentity, rfl, rfl⟩
  | deleteEntityById =>
    obtain ⟨c, table, identity, -, -, hidentity, rfl⟩ := compiles_deleteEntityById_iff.1 h
    exact ⟨List.append_nil identity ▸ hconditions [] none hidentity, rfl, rfl⟩
  | findEntityById | findNlsColumn =>
    obtain ⟨c, table, identity, columns, -, -, hidentity, hsql⟩ :=
      exists_select_of_compiles (by simp) h
    rw [hsql]
    exact ⟨List.append_nil identity ▸ hconditions [] (some readAlias) hidentity, rfl, rfl⟩
  | insert | findComponentsBy | findComponentsByJoinTable | deleteComponentsBy =>
    simp [Request.operation] at hrequest

/-! ### From one statement to the other -/

theorem exists_delete_of_update {nlsProperties : Option (List Identifier)}
    (h : env.Compiles type (.update nlsProperties) s) :
    ∃ delete, env.Compiles type .delete delete ∧
      s.sql.conjuncts = delete.sql.conjuncts.map (Conjunct.shift s.sql.assigned.length) := by
  obtain ⟨-, sql, hsql, rfl⟩ := compiles_update_iff.1 h
  obtain ⟨c, table, identity, version, plain, localized, hc, htable, hidentity, hversion, -, -, -,
    rfl⟩ := updateSql_eq_ok_iff.1 hsql
  refine ⟨_, compiles_delete_iff.2 ⟨c, table, identity, version, hc, htable, hidentity, hversion,
    rfl⟩, ?_⟩
  exact Conjunct.ofSlots_add 1 _ ((identity ++ version.toList).map (·.ownSlot none))

theorem exists_deleteEntityById_of_delete (h : env.Compiles type .delete s) :
    ∃ c entity, ∃ version : Option Conjunct, env.registry.find? type = some c ∧
      env.Compiles type .deleteEntityById entity ∧
        s.sql.conjuncts = entity.sql.conjuncts ++ version.toList ∧
          version.isSome = c.hasVersion ∧ ∀ conjunct ∈ version,
            conjunct.parameter.binding.type = .scalar .int32 ∨
              conjunct.parameter.binding.type = .scalar .int64 := by
  obtain ⟨c, table, identity, version, hc, htable, hidentity, hversion, rfl⟩ :=
    compiles_delete_iff.1 h
  refine ⟨c, _, version.map fun column =>
      ⟨column.under none, 1 + identity.length, (column.ownSlot none).binding⟩,
    Registry.component_eq_ok_iff.1 hc,
    compiles_deleteEntityById_iff.2 ⟨c, table, identity, hc, htable, hidentity, rfl⟩, ?_, ?_, ?_⟩
  · refine (congrArg (Conjunct.ofSlots 1) List.map_append).trans ?_
    rw [Conjunct.ofSlots_append, List.length_map]
    cases version <;> rfl
  · rw [Option.isSome_map, Component.isSome_of_versionColumn hversion]
  · intro conjunct hconjunct
    obtain ⟨column, rfl, rfl⟩ := Option.map_eq_some_iff.1 hconjunct
    exact Component.boundType_of_versionColumn hversion

theorem exists_deleteEntityById_of_find
    (hrequest : request = .findEntityById ∨ ∃ property, request = .findNlsColumn property)
    (h : env.Compiles type request s) :
    ∃ entity, env.Compiles type .deleteEntityById entity ∧
      s.sql.conjuncts = entity.sql.conjuncts.map (Conjunct.under "t") := by
  obtain ⟨c, table, identity, columns, hc, htable, hidentity, hsql⟩ :=
    exists_select_of_compiles hrequest h
  refine ⟨_, compiles_deleteEntityById_iff.2 ⟨c, table, identity, hc, htable, hidentity, rfl⟩, ?_⟩
  rw [hsql]
  exact Conjunct.ofSlots_map_ownSlot 1 readAlias identity

end Environment

namespace StatementFactory

/-- Updates, deletes and finders by identity address a row by the same conditions. -/
theorem addressing_exact (env : Environment) (type : ComponentType) :
    (∀ nlsProperties update, env.Compiles type (.update nlsProperties) update →
      ∃ delete, env.Compiles type .delete delete ∧
        update.sql.conjuncts =
          delete.sql.conjuncts.map (Conjunct.shift update.sql.assigned.length)) ∧
    (∀ delete, env.Compiles type .delete delete →
      ∃ c entity, ∃ version : Option Conjunct, env.registry.find? type = some c ∧
        env.Compiles type .deleteEntityById entity ∧
          delete.sql.conjuncts = entity.sql.conjuncts ++ version.toList ∧
            version.isSome = c.hasVersion ∧ ∀ conjunct ∈ version,
              conjunct.parameter.binding.type = .scalar .int32 ∨
                conjunct.parameter.binding.type = .scalar .int64) ∧
    (∀ request finder,
      (request = .findEntityById ∨ ∃ property, request = .findNlsColumn property) →
      env.Compiles type request finder →
        ∃ entity, env.Compiles type .deleteEntityById entity ∧
          finder.sql.conjuncts = entity.sql.conjuncts.map (Conjunct.under "t")) ∧
    ∀ request s, request.operation ∈ [Operation.update, .delete, .deleteEntityById, .findEntityById,
        .findNlsColumn] →
      env.Compiles type request s →
        s.text = s.sql.lead ++ " WHERE " ++ " AND ".intercalate (s.sql.conjuncts.map (·.text)) ∧
          s.parameters.drop s.sql.assigned.length = s.sql.conjuncts.map (·.parameter) := by
  refine ⟨fun _ _ => Environment.exists_delete_of_update,
    fun _ => Environment.exists_deleteEntityById_of_delete,
    fun _ _ => Environment.exists_deleteEntityById_of_find, fun request s hrequest hs => ?_⟩
  obtain ⟨hconditions, hunbound, hsorting⟩ := Environment.clauses_of_compiles hrequest hs
  exact ⟨Sql.text_eq_of_conjuncts hconditions hunbound hsorting, s.sql.drop_parameters⟩

theorem addressing_exact_railway :
    ∃ update delete finder entity,
      dispatch defaults .railway "a.Train/update?nlsProperties=label" = .ok update ∧
      dispatch defaults .railway "a.Train/delete" = .ok delete ∧
      dispatch defaults .railway "a.Train/findNlsColumn?property=label" = .ok finder ∧
      dispatch defaults .railway "a.Train/deleteEntityById" = .ok entity ∧
      update.text = "UPDATE TRAIN SET CODE = ?1, LABEL = ?2, VERSION = VERSION + 1 " ++
        "WHERE ID = ?3 AND VERSION = ?4" ∧
      finder.text = "SELECT t.LABEL FROM TRAIN t WHERE t.ID = ?1" ∧
      update.sql.conjuncts = delete.sql.conjuncts.map (Conjunct.shift 2) ∧
      finder.sql.conjuncts = entity.sql.conjuncts.map (Conjunct.under "t") := by
  have hupdated : (dispatch defaults .railway "a.Train/update?nlsProperties=label").map
      (fun s => (s.text, s.sql.assigned.length)) =
        .ok ("UPDATE TRAIN SET CODE = ?1, LABEL = ?2, VERSION = VERSION + 1 " ++
          "WHERE ID = ?3 AND VERSION = ?4", 2) := by
    decide +kernel
  have hfound : (dispatch defaults .railway "a.Train/findNlsColumn?property=label").map (·.text) =
      .ok "SELECT t.LABEL FROM TRAIN t WHERE t.ID = ?1" := by
    decide +kernel
  obtain ⟨update, hupdate, hupdate'⟩ := map_eq_ok_iff.1 hupdated
  obtain ⟨finder, hfinder, hfinder'⟩ := map_eq_ok_iff.1 hfound
  obtain ⟨htext, hassigned⟩ := Prod.mk.inj hupdate'
  have hupdateKey : StatementKey.text
      ⟨Component.train.name, .update (some [⟨"label", by decide⟩])⟩ =
        "a.Train/update?nlsProperties=label" := by
    decide +kernel
  have hfinderKey : StatementKey.text
      ⟨Component.train.name, .findNlsColumn ⟨"label", by decide⟩⟩ =
        "a.Train/findNlsColumn?property=label" := by
    decide +kernel
  have hdeleteKey : StatementKey.text ⟨Component.train.name, .delete⟩ = "a.Train/delete" := by
    decide +kernel
  have hentityKey : StatementKey.text ⟨Component.train.name, .deleteEntityById⟩ =
      "a.Train/deleteEntityById" := by
    decide +kernel
  obtain ⟨hofUpdate, -, hofFinder, -⟩ := addressing_exact .railway Component.train.name
  obtain ⟨delete, hdelete, hshifted⟩ :=
    hofUpdate _ update ((congrArg _ hupdateKey).trans hupdate)
  obtain ⟨entity, hentity, hunder⟩ :=
    hofFinder _ finder (.inr ⟨_, rfl⟩) ((congrArg _ hfinderKey).trans hfinder)
  rw [hassigned] at hshifted
  exact ⟨update, delete, finder, entity, hupdate, (congrArg _ hdeleteKey.symm).trans hdelete,
    hfinder, (congrArg _ hentityKey.symm).trans hentity, htext, hfinder', hshifted, hunder⟩

end StatementFactory

end KeyedSql
