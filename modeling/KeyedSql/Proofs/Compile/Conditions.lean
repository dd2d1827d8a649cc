import KeyedSql.Proofs.Compile.Dispatch

/-!
# No statement meets all rows

Every statement but an insert has a clause of conditions, and the clause compares at least one
column with a bound value. A delete joins its conditions without looking whether there are any;
that there are is known from elsewhere: a component without an identity cannot be addressed by one,
and a key does not list nothing where it has to list properties.
-/

namespace KeyedSql

open Outcome

/-- The conditions that compare a column with a bound value. -/
def Sql.boundConditions (sql : Sql) : List String :=
  Slot.texts (1 + sql.assigned.length) sql.conditions

/-- How many columns a request compares with bound values. -/
def Component.conditionCount (c : Component) : Request → Nat
  | .insert => 0
  | .update _ | .delete => c.identities.length + if c.hasVersion then 1 else 0
  | .deleteEntityById | .findEntityById | .findNlsColumn _ => c.identities.length
  | .deleteComponentsBy properties | .findComponentsBy properties .. => properties.length
  | .findComponentsByJoinTable search .. => search.sourceProperties.length

theorem Sql.length_boundConditions (sql : Sql) :
    sql.boundConditions.length = sql.conditions.length := by
  simp [boundConditions, Slot.texts]

theorem Sql.exists_of_mem_boundConditions {sql : Sql} {condition : String}
    (h : condition ∈ sql.boundConditions) :
    ∃ slot ∈ sql.conditions, ∃ n, condition = slot.column.text ++ " = " ++ placeholder n := by
  obtain ⟨⟨slot, n⟩, hslot, rfl⟩ := List.mem_map.1 h
  exact ⟨slot, List.fst_mem_of_mem_zipIdx hslot, n, rfl⟩

section Count

variable {r : Registry} {c : Component} {request : Request} {columns : List MappedColumn}

theorem Registry.length_of_conditionColumns (h : r.conditionColumns c request = .ok columns) :
    columns.length = c.conditionCount request := by
  cases request with
  | insert =>
    cases h
    rfl
  | update | delete =>
    obtain ⟨identity, hidentity, h⟩ := bind_eq_ok_iff.1 h
    obtain ⟨version, hversion, h⟩ := bind_eq_ok_iff.1 h
    cases h
    rw [List.length_append, Component.length_of_identifyingColumns hidentity,
      Component.length_of_versionColumn hversion]
    rfl
  | deleteEntityById | findEntityById | findNlsColumn =>
    exact Component.length_of_identifyingColumns h
  | deleteComponentsBy | findComponentsBy | findComponentsByJoinTable =>
    exact length_eq_of_mapM_eq_ok h

/-- A well-formed request for anything but an insert compares at least one column. -/
theorem Registry.conditionCount_pos (hwf : request.WellFormed)
    (hinsert : request.operation ≠ .insert) (h : r.conditionColumns c request = .ok columns) :
    0 < c.conditionCount request := by
  -- Identities are not empty because they were found, lists of properties because the key is well
  -- formed.
  have hidentities : ∀ {identity : List MappedColumn}, c.identifyingColumns = .ok identity →
      0 < c.identities.length := fun hidentity =>
    List.length_pos_of_ne_nil (Component.identifyingColumns_eq_ok_iff.1 hidentity).1
  cases request with
  | insert => exact absurd rfl hinsert
  | update | delete =>
    obtain ⟨identity, hidentity, -⟩ := bind_eq_ok_iff.1 h
    exact Nat.add_pos_left (hidentities hidentity) _
  | deleteEntityById | findEntityById | findNlsColumn => exact hidentities h
  | deleteComponentsBy | findComponentsBy => exact List.length_pos_of_ne_nil hwf.1
  | findComponentsByJoinTable => exact List.length_pos_of_ne_nil hwf.1.sourceProperties_ne_nil

end Count

namespace StatementFactory

variable {env : Environment} {key : String} {s : Statement}

/-- No statement but an insert is without a bound condition, and there are as many as its key says.
-/
theorem conditions_of_dispatch (h : dispatch defaults env key = .ok s) :
    ∃ (k : StatementKey) (c : Component), k.WellFormed ∧ k.text = key ∧
      env.registry.component k.component = .ok c ∧
        (k.operation ≠ .insert →
          (∃ cancelled : Option ColumnName, (s.sql.command ≠ .select → cancelled = none) ∧
            s.sql.unbound = cancelled.toList.map fun column =>
              "(" ++ column.text ++ " IS NULL OR " ++ column.text ++ " = 0)") ∧
          (∃ order : List OrderTerm, s.sql.sorting =
            if order.isEmpty then "" else " ORDER BY " ++ ", ".intercalate (order.map (·.text))) ∧
          s.text = s.sql.lead ++ " WHERE " ++
            " AND ".intercalate (s.sql.boundConditions ++ s.sql.unbound) ++ s.sql.sorting ∧
          (∀ condition ∈ s.sql.boundConditions, ∃ slot ∈ s.sql.conditions, ∃ n,
            condition = slot.column.text ++ " = " ++ placeholder n) ∧
          1 ≤ s.sql.boundConditions.length ∧
          s.sql.boundConditions.length = c.conditionCount k.request) := by
  obtain ⟨k, hwf, htext, hstatement⟩ := dispatch_defaults_eq_ok_iff.1 h
  obtain ⟨c, hc, hbinds⟩ := Environment.binds_of_statementOf hstatement
  refine ⟨k, c, hwf, htext, hc, fun hinsert => ?_⟩
  obtain ⟨columns, hcolumns, hslots⟩ := hbinds.conditions
  have hcount : s.sql.conditions.length = c.conditionCount k.request := by
    rw [← hslots.length_eq, Registry.length_of_conditionColumns hcolumns]
  have hpos : 1 ≤ s.sql.conditions.length :=
    hcount ▸ Registry.conditionCount_pos hwf hinsert hcolumns
  rw [Sql.length_boundConditions]
  refine ⟨s.sql.exists_unbound_eq, s.sql.exists_sorting_eq, ?_, fun condition =>
    Sql.exists_of_mem_boundConditions, hpos, hcount⟩
  exact Sql.text_eq_of_conditions_ne_nil (List.ne_nil_of_length_pos hpos)

/-- A delete of an entity compares its identity and its version. -/
theorem conditions_of_dispatch_railway :
    ∃ s, dispatch defaults .railway "a.Train/delete" = .ok s ∧
      s.text = "DELETE FROM TRAIN WHERE ID = ?1 AND VERSION = ?2" ∧
      s.sql.boundConditions.length = 2 := by
  have hcompiled : (dispatch defaults .railway "a.Train/delete").map (·.text) =
      .ok "DELETE FROM TRAIN WHERE ID = ?1 AND VERSION = ?2" := by
    decide +kernel
  obtain ⟨s, hs, htext⟩ := map_eq_ok_iff.1 hcompiled
  obtain ⟨k, c, -, hkey, hc, hconditions⟩ := conditions_of_dispatch hs
  have hdelete : StatementKey.text ⟨Component.train.name, .delete⟩ = "a.Train/delete" := by
    decide +kernel
  obtain rfl := StatementKey.text_injective (hkey.trans hdelete.symm)
  have htrain : Environment.railway.registry.component Component.train.name = .ok .train := by
    decide
  obtain rfl := Except.ok.inj (htrain.symm.trans hc)
  exact ⟨s, hs, htext, (hconditions (by decide)).2.2.2.2.2⟩

end StatementFactory

end KeyedSql
