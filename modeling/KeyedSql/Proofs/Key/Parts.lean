import KeyedSql.Key.Reader
import KeyedSql.Proofs.Key.Values

/-!
# The parts of a key and their texts

A head is read from its own text and from no other, with any query behind it. A query is read from
the joined texts of one or more parameters, whose names are identifiers and whose values do not hold
the character between parameters.
-/

namespace KeyedSql

open Outcome

theorem ComponentType.text_ne_empty (c : ComponentType) : c.text ≠ "" := by
  intro h
  have hc := c.isTypeName_text
  rw [h] at hc
  exact absurd hc (by decide)

/-! ## Heads -/

namespace KeyHead

/-- A head without its query. -/
def path (head : KeyHead) : String :=
  head.component.text ++ "/" ++ head.operation.text

/-- The text before a `?` and the query after it. -/
def withQuery (path : String) : Option String → String
  | some query => path ++ "?" ++ query
  | none => path

theorem text_eq_withQuery (head : KeyHead) : head.text = withQuery head.path head.query := by
  obtain ⟨component, operation, _ | query⟩ := head <;> rfl

theorem notMem_path {head : KeyHead} : '?' ∉ head.path.toList := by
  have hcomponent := head.component.notMem_of_mem_delimiters (d := '?') (by decide)
  have hoperation := head.operation.notMem_of_mem_delimiters (c := '?') (by decide)
  simp [path, hcomponent, hoperation]

theorem cut_path (head : KeyHead) :
    Text.cut '/' head.path = some (head.component.text, head.operation.text) :=
  Text.cut_eq_some_iff.2 ⟨head.component.notMem_of_mem_delimiters (by decide), rfl⟩

theorem cutQuery_eq_iff {key path : String} {query : Option String} :
    cutQuery key = (path, query) ↔ '?' ∉ path.toList ∧ key = withQuery path query := by
  cases query with
  | none =>
    have hnone : cutQuery key = (path, none) ↔ Text.cut '?' key = none ∧ key = path := by
      unfold cutQuery
      cases Text.cut '?' key <;> simp
    rw [hnone, Text.cut_eq_none_iff]
    constructor
    · rintro ⟨hkey, rfl⟩
      exact ⟨hkey, rfl⟩
    · rintro ⟨hpath, rfl⟩
      exact ⟨hpath, rfl⟩
  | some query =>
    have hsome : cutQuery key = (path, some query) ↔ Text.cut '?' key = some (path, query) := by
      unfold cutQuery
      cases Text.cut '?' key <;> simp [Prod.ext_iff]
    rw [hsome]
    exact Text.cut_eq_some_iff

theorem parse_eq_ok_iff {key : String} {head : KeyHead} :
    parse key = .ok head ↔ key = head.text := by
  have hparse : parse key = .ok head ↔ cutQuery key = (head.path, head.query) := by
    constructor
    · intro h
      rcases hcutQuery : cutQuery key with ⟨front, query⟩
      simp only [parse, hcutQuery] at h
      split at h
      · cases h
      · rename_i typeName operation hcut
        obtain ⟨-, rfl⟩ := Text.cut_eq_some_iff.1 hcut
        split_ifs at h
        simp only [bind_eq_ok_iff, ComponentType.parse_eq_ok_iff, Identifier.parse_eq_ok_iff] at h
        obtain ⟨component, rfl, operation, rfl, h⟩ := h
        cases h
        rfl
    · intro h
      simp only [parse, h, cut_path, head.component.text_ne_empty, head.operation.text_ne_empty,
        or_self, if_false, ComponentType.parse_text, Identifier.parse_text]
      rfl
  rw [hparse, cutQuery_eq_iff, text_eq_withQuery]
  exact and_iff_right notMem_path

end KeyHead

/-! ## Queries -/

namespace KeyParam

/-- The rule of a parameter of a query: its name is an identifier, and its text does not hold the
character between parameters. -/
def WellFormed (param : KeyParam) : Prop :=
  Token.isIdentifier param.name.toList = true ∧ '&' ∉ param.text.toList

theorem wellFormed_bare {name : String} (hname : Token.isIdentifier name.toList = true) :
    WellFormed ⟨name, none⟩ :=
  ⟨hname, Token.notMem_of_mem_delimiters_of_isIdentifier (by decide) hname⟩

theorem wellFormed_valued {name value : String} (hname : Token.isIdentifier name.toList = true)
    (hvalue : '&' ∉ value.toList) : WellFormed ⟨name, some value⟩ := by
  refine ⟨hname, ?_⟩
  have hsep : '&' ∉ name.toList := Token.notMem_of_mem_delimiters_of_isIdentifier (by decide) hname
  simp [text, hsep, hvalue]

theorem WellFormed.text_ne_empty {param : KeyParam} (h : param.WellFormed) : param.text ≠ "" := by
  obtain ⟨name, _ | value⟩ := param
  · exact Identifier.text_ne_empty ⟨name, h.1⟩
  · intro htext
    simpa [text] using congrArg String.toList htext

theorem parse_eq_ok_iff {text : String} {param : KeyParam} :
    parse text = .ok param ↔
      text = param.text ∧ Token.isIdentifier param.name.toList = true := by
  unfold parse
  rw [check_bind_eq_ok_iff, Token.requireIdentifier_eq_ok_iff]
  constructor
  · rintro ⟨hname, h⟩
    cases hcut : Text.cut '=' text with
    | none =>
      rw [hcut] at hname h
      cases h
      exact ⟨rfl, hname⟩
    | some parts =>
      obtain ⟨name, value⟩ := parts
      rw [hcut] at hname h
      cases h
      exact ⟨(Text.cut_eq_some_iff.1 hcut).2, hname⟩
  · rintro ⟨rfl, hname⟩
    have hsep : '=' ∉ param.name.toList :=
      Token.notMem_of_mem_delimiters_of_isIdentifier (by decide) hname
    obtain ⟨name, _ | value⟩ := param
    · have hcut : Text.cut '=' (KeyParam.text ⟨name, none⟩) = none := Text.cut_eq_none_iff.2 hsep
      rw [hcut]
      exact ⟨hname, rfl⟩
    · have hcut : Text.cut '=' (KeyParam.text ⟨name, some value⟩) = some (name, value) :=
        Text.cut_eq_some_iff.2 ⟨hsep, rfl⟩
      rw [hcut]
      exact ⟨hname, rfl⟩

theorem parseQuery_eq_ok_iff {query : String} {params : List KeyParam} :
    parseQuery query = .ok params ↔
      params ≠ [] ∧ (∀ param ∈ params, param.WellFormed) ∧ query = queryText params := by
  have hsplit : (Text.split '&' query).mapM parse = .ok params ↔
      params ≠ [] ∧ (∀ param ∈ params, param.WellFormed) ∧ query = queryText params := by
    rw [mapM_eq_ok_iff_map fun _ _ => parse_eq_ok_iff, Text.split_eq_iff]
    simp only [List.forall_mem_map, List.map_eq_nil_iff, ne_eq, WellFormed, forall_and, queryText]
    tauto
  unfold parseQuery
  split_ifs with hempty
  · refine iff_of_false (by simp) ?_
    rintro ⟨hne, hwf, hquery⟩
    obtain ⟨first, rest, rfl⟩ := List.exists_cons_of_ne_nil hne
    have hfirst := (hwf first (List.mem_cons_self ..)).text_ne_empty
    exact Text.join_cons_ne_empty hfirst (hquery.symm.trans hempty)
  · exact hsplit

end KeyParam

theorem KeyHead.params_eq_ok_iff {head : KeyHead} {params : List KeyParam} :
    head.params = .ok params ↔ (∀ param ∈ params, param.WellFormed) ∧
      head.query = if params = [] then none else some (KeyParam.queryText params) := by
  unfold KeyHead.params
  cases head.query with
  | none => cases params <;> simp
  | some query =>
    rw [KeyParam.parseQuery_eq_ok_iff]
    by_cases hne : params = []
    · simp [hne]
    · simp [hne]

end KeyedSql
