import KeyedSql.Proofs.Compile.Names
import KeyedSql.Proofs.Sql.Placeholders

/-!
# Placeholders and parameters

Bound values are numbered once, by their places among the slots of a statement, and the text and the
parameters both follow that list. What remains is that the slots are the columns of the request, in
the order of `Component.assignedColumns` and `Registry.conditionColumns`.
-/

namespace KeyedSql

open Outcome Text

/-- The parameter is bound to the column: it carries the types that the column declares, and its
placeholder, number `i` counted from zero, stands where the text names the column. -/
structure Statement.BindsColumn (s : Statement) (qualifier : Option String) (i : Nat)
    (parameter : Parameter) (column : MappedColumn) : Prop where
  index_eq : parameter.index = i + 1
  type_eq : parameter.binding.type = column.decl.type.getD column.property.type
  sqlType_eq : parameter.binding.sqlType = column.decl.sqlType
  typeHandler_eq : parameter.binding.typeHandler = column.decl.typeHandler
  bindsAt : BindsAt s.text i (column.under qualifier).text

theorem exists_getElem?_of_forall₂ {α β : Type} {R : α → β → Prop} {xs : List α} {ys : List β}
    (h : List.Forall₂ R xs ys) {i : Nat} {y : β} (hy : ys[i]? = some y) :
    ∃ x, xs[i]? = some x ∧ R x y := by
  induction h generalizing i with
  | nil => simp at hy
  | @cons x y' xs ys hxy _ ih =>
    cases i with
    | zero =>
      obtain rfl : y' = y := by simpa using hy
      exact ⟨x, rfl, hxy⟩
    | succ i => simpa using ih (by simpa using hy)

theorem Sql.length_parameters (sql : Sql) : sql.parameters.length = sql.slots.length := by
  simp [parameters]

theorem Sql.getElem?_parameters_eq_some_iff {sql : Sql} {i : Nat} {parameter : Parameter} :
    sql.parameters[i]? = some parameter ↔
      ∃ slot, sql.slots[i]? = some slot ∧ ⟨i + 1, slot.binding⟩ = parameter := by
  rw [parameters, List.getElem?_map, List.getElem?_zipIdx]
  simp [Nat.add_comm 1 i]

/-- The slots are for the assigned columns and then for those that are compared. -/
theorem Sql.Binds.slots {r : Registry} {c : Component} {request : Request} {sql : Sql}
    (h : sql.Binds r c request) :
    ∃ assigned conditions, c.assignedColumns request = .ok assigned ∧
      r.conditionColumns c request = .ok conditions ∧
        List.Forall₂ (Slot.IsFor request.boundQualifier) (assigned ++ conditions) sql.slots := by
  obtain ⟨assigned, hassigned, hassigned'⟩ := h.assigned
  obtain ⟨conditions, hconditions, hconditions'⟩ := h.conditions
  refine ⟨assigned, conditions, hassigned, hconditions, ?_⟩
  rw [slots_eq]
  exact List.rel_append hassigned' hconditions'

namespace StatementFactory

variable {env : Environment} {key : String} {s : Statement}

theorem placeholders_of_dispatch (hnames : env.registry.NamesWithin (· ≠ '?'))
    (h : dispatch defaults env key = .ok s) :
    placeholders s.text = (List.range' 1 s.parameters.length).map placeholder := by
  obtain ⟨k, -, -, hstatement⟩ := dispatch_defaults_eq_ok_iff.1 h
  have hpart : ∀ c, Token.isPart c = true → c ≠ '?' := fun c hc =>
    ne_questionMark_of_isFixedChar (isFixedChar_of_isPart hc)
  have hwithin : ∀ name ∈ s.sql.names, Within (· ≠ '?') name := fun name hname =>
    (Environment.origin_of_statementOf hstatement name hname).within hnames hpart
  rw [Statement.parameters, Sql.length_parameters]
  exact Sql.placeholders_text hwithin

/-- Placeholders are numbered left to right, and each binds the column beside it. -/
theorem bindings_of_dispatch (hnames : env.registry.NamesWithin (· ≠ '?'))
    (h : dispatch defaults env key = .ok s) :
    placeholders s.text = (List.range' 1 s.parameters.length).map placeholder ∧
      ∃ (k : StatementKey) (c : Component) (assigned conditions : List MappedColumn),
        k.WellFormed ∧ k.text = key ∧ env.registry.component k.component = .ok c ∧
          c.assignedColumns k.request = .ok assigned ∧
            env.registry.conditionColumns c k.request = .ok conditions ∧
              (∀ column ∈ assigned ++ conditions, env.registry.DeclaresColumn column) ∧
                s.parameters.length = (assigned ++ conditions).length ∧
                  ∀ i parameter, s.parameters[i]? = some parameter →
                    ∃ column, (assigned ++ conditions)[i]? = some column ∧
                      s.BindsColumn k.request.boundQualifier i parameter column := by
  refine ⟨placeholders_of_dispatch hnames h, ?_⟩
  obtain ⟨k, hwf, htext, hstatement⟩ := dispatch_defaults_eq_ok_iff.1 h
  obtain ⟨c, hc, hbinds⟩ := Environment.binds_of_statementOf hstatement
  obtain ⟨assigned, conditions, hassigned, hconditions, hslots⟩ := hbinds.slots
  have hmem : c ∈ env.registry.components := Registry.mem_of_component hc
  refine ⟨k, c, assigned, conditions, hwf, htext, hc, hassigned, hconditions, ?_, ?_, ?_⟩
  · refine List.forall_mem_append.2 ⟨fun column hcolumn => ⟨c, hmem, ?_⟩, ?_⟩
    · exact Component.declaresColumn_of_mem_assignedColumns hassigned column hcolumn
    · exact Registry.declaresColumn_of_mem_conditionColumns hmem hconditions
  · rw [Statement.parameters, Sql.length_parameters, hslots.length_eq]
  · intro i parameter hparameter
    obtain ⟨slot, hslot, rfl⟩ := Sql.getElem?_parameters_eq_some_iff.1 hparameter
    obtain ⟨column, hcolumn, property, rfl⟩ := exists_getElem?_of_forall₂ hslots hslot
    exact ⟨column, hcolumn, rfl, rfl, rfl, rfl, Sql.bindsAt_text hslot⟩

/-- An update that assigns a plain and a localized column and compares identity and version. -/
theorem bindings_of_dispatch_railway :
    ∃ s, dispatch defaults .railway "a.Train/update?nlsProperties=label" = .ok s ∧
      s.text = "UPDATE TRAIN SET CODE = ?1, LABEL = ?2, VERSION = VERSION + 1 " ++
        "WHERE ID = ?3 AND VERSION = ?4" ∧
      Environment.railway.registry.NamesWithin (· ≠ '?') ∧
      placeholders s.text = ["?1", "?2", "?3", "?4"] := by
  have hnames : Environment.railway.registry.NamesWithin (· ≠ '?') := by decide
  have hcompiled : (dispatch defaults .railway "a.Train/update?nlsProperties=label").map
      (fun s => (s.text, s.parameters.length)) =
      .ok ("UPDATE TRAIN SET CODE = ?1, LABEL = ?2, VERSION = VERSION + 1 " ++
        "WHERE ID = ?3 AND VERSION = ?4", 4) := by
    decide +kernel
  obtain ⟨s, hs, hs'⟩ := map_eq_ok_iff.1 hcompiled
  obtain ⟨htext, hlength⟩ := Prod.mk.inj hs'
  refine ⟨s, hs, htext, hnames, ?_⟩
  rw [(bindings_of_dispatch hnames hs).1, hlength]
  decide

end StatementFactory

end KeyedSql
