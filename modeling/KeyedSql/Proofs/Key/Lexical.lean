import KeyedSql.Proofs.Key.Parts
import KeyedSql.Proofs.Name.Dotted

/-!
# Cutting and joining

A key is cut at its first `?` and before that at its first `/`, a parameter at its first `=`, and
queries and lists at every separator. Each of these undoes one way of joining, and nothing else:
what a text is cut into is the only thing of its form that is joined to this text. Further
separators are no fault here as long as they stand in a query, a value or an item of another list.
-/

namespace KeyedSql

open Outcome Token

theorem ComponentType.exists_text_eq_iff {s : String} :
    (∃ c : ComponentType, c.text = s) ↔ IsDotted s := by
  rw [← exists_parse_eq_ok_iff]
  exact exists_congr fun c => eq_comm.trans parse_eq_ok_iff.symm

theorem Identifier.exists_text_eq_iff {s : String} :
    (∃ id : Identifier, id.text = s) ↔ IsWord s.toList := by
  rw [← exists_parse_eq_ok_iff]
  exact exists_congr fun id => eq_comm.trans parse_eq_ok_iff.symm

theorem KeyHead.exists_parse_eq_ok_iff {key typeName operation : String} {query : Option String} :
    (∃ head, parse key = .ok head ∧ head.component.text = typeName ∧
        head.operation.text = operation ∧ head.query = query) ↔
      IsDotted typeName ∧ IsWord operation.toList ∧
        key = withQuery (typeName ++ "/" ++ operation) query := by
  rw [← ComponentType.exists_text_eq_iff, ← Identifier.exists_text_eq_iff]
  constructor
  · rintro ⟨head, hhead, rfl, rfl, rfl⟩
    obtain rfl := parse_eq_ok_iff.1 hhead
    exact ⟨⟨_, rfl⟩, ⟨_, rfl⟩, head.text_eq_withQuery⟩
  · rintro ⟨⟨component, rfl⟩, ⟨id, rfl⟩, rfl⟩
    have hhead := (text_eq_withQuery ⟨component, id, query⟩).symm
    exact ⟨⟨component, id, query⟩, parse_eq_ok_iff.2 hhead, rfl, rfl, rfl⟩

theorem KeyParam.wellFormed_iff {param : KeyParam} :
    param.WellFormed ↔ IsWord param.name.toList ∧ '&' ∉ param.text.toList := by
  rw [WellFormed, isIdentifier_iff]

/-- Heads, queries and lists of items are read exactly from the texts that spell them. -/
theorem lexicalParts_exact :
    (∀ (key typeName operation : String) (query : Option String),
      (∃ head, KeyHead.parse key = .ok head ∧ head.component.text = typeName ∧
          head.operation.text = operation ∧ head.query = query) ↔
        IsDotted typeName ∧ IsWord operation.toList ∧
          key = match query with
            | none => typeName ++ "/" ++ operation
            | some query => typeName ++ "/" ++ operation ++ "?" ++ query) ∧
    (∀ (query : String) (params : List KeyParam), KeyParam.parseQuery query = .ok params ↔
      params ≠ [] ∧
        (∀ param ∈ params, IsWord param.name.toList ∧ '&' ∉ param.text.toList) ∧
          Text.join '&' (params.map (·.text)) = query) ∧
    ∀ (sep : Char) (value : String) (items : List String), readItems sep value = .ok items ↔
      items ≠ [] ∧ (∀ item ∈ items, item ≠ "" ∧ sep ∉ item.toList) ∧
        Text.join sep items = value := by
  refine ⟨fun key typeName operation query => ?_, fun query params => ?_, fun _ _ _ => ?_⟩
  · rw [KeyHead.exists_parse_eq_ok_iff]
    cases query <;> rfl
  · rw [KeyParam.parseQuery_eq_ok_iff, eq_comm (a := query)]
    simp only [KeyParam.wellFormed_iff, KeyParam.queryText]
  · exact readItems_eq_ok_iff

/-- A parameter is cut at its first `=` alone, and at each `&` another one begins. -/
example : KeyParam.parseQuery "a=b?c=d/e&f" = .ok [⟨"a", some "b?c=d/e"⟩, ⟨"f", none⟩] := by
  decide +kernel

end KeyedSql
