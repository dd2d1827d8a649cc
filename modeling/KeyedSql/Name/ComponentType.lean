import KeyedSql.Name.Token
import KeyedSql.Text.Split

/-!
# Component types

A component is known by its dotted type name. Lists of types that have no order of their own are
shown in the order of their names, which `ComponentType.sort` gives them.
-/

namespace KeyedSql

/-- The dotted name of a component. -/
structure ComponentType where
  text : String
  isTypeName_text : Token.isTypeName text.toList = true
  deriving DecidableEq

namespace ComponentType

/-- Reads a type name. -/
def parse (token : String) : Except GrammarError ComponentType :=
  match h : Token.requireTypeName token with
  | .ok () => .ok ⟨token, Token.requireTypeName_eq_ok_iff.1 h⟩
  | .error e => .error e

/-- The part of the name after its last dot. -/
def shortName (c : ComponentType) : String :=
  (Text.split '.' c.text).getLast (Text.split_ne_nil '.' c.text)

/-- The types in the order of their names. -/
def sort (cs : List ComponentType) : List ComponentType :=
  cs.mergeSort fun a b => decide (a.text ≤ b.text)

@[ext]
theorem ext {a b : ComponentType} (h : a.text = b.text) : a = b := by
  cases a; cases b; cases h; rfl

theorem parse_text (c : ComponentType) : parse c.text = .ok c := by
  unfold parse
  split
  · rfl
  · have := Token.requireTypeName_eq_ok_iff.2 c.isTypeName_text
    simp_all

theorem parse_eq_ok_iff {token : String} {c : ComponentType} :
    parse token = .ok c ↔ token = c.text := by
  constructor
  · unfold parse
    split
    · rintro ⟨⟩
      rfl
    · simp
  · rintro rfl
    exact parse_text c

theorem parse_eq_error_iff {token : String} {e : GrammarError} :
    parse token = .error e ↔ Token.requireTypeName token = .error e := by
  unfold parse
  split <;> simp_all

theorem notMem_of_mem_delimiters {d : Char} (hd : d ∈ Token.delimiters) (c : ComponentType) :
    d ∉ c.text.toList :=
  Token.notMem_of_mem_delimiters_of_isTypeName hd c.isTypeName_text

theorem sort_perm (cs : List ComponentType) : (sort cs).Perm cs :=
  List.mergeSort_perm cs _

theorem mem_sort {c : ComponentType} {cs : List ComponentType} : c ∈ sort cs ↔ c ∈ cs :=
  (sort_perm cs).mem_iff

theorem sort_sorted (cs : List ComponentType) :
    (sort cs).Pairwise fun a b => a.text ≤ b.text := by
  have := @List.pairwise_mergeSort ComponentType (fun a b => decide (a.text ≤ b.text))
    (by simpa using fun a b c : ComponentType => String.le_trans)
    (by simpa using fun a b : ComponentType => String.le_total a.text b.text) cs
  simpa [sort] using this

theorem sort_pairwise_lt {cs : List ComponentType} (h : cs.Nodup) :
    (sort cs).Pairwise fun a b => a.text < b.text := by
  have hnodup : (sort cs).Nodup := (sort_perm cs).nodup_iff.2 h
  refine List.Pairwise.imp₂ (fun a b hle hne => ?_) (sort_sorted cs) hnodup
  exact String.not_le.1 fun hge => hne (ext (String.le_antisymm hle hge))

/-- Two lists of types in strict order that hold the same types are one list. -/
theorem eq_of_pairwise_lt {xs ys : List ComponentType}
    (hxs : xs.Pairwise fun a b => a.text < b.text) (hys : ys.Pairwise fun a b => a.text < b.text)
    (h : ∀ c, c ∈ xs ↔ c ∈ ys) : xs = ys := by
  have hne : ∀ a b : ComponentType, a.text < b.text → a ≠ b := by
    rintro a _ hlt rfl
    exact String.lt_irrefl _ hlt
  have hperm : xs.Perm ys :=
    (List.perm_ext_iff_of_nodup (hxs.imp (hne _ _)) (hys.imp (hne _ _))).2 h
  refine hperm.eq_of_pairwise ?_ hxs hys
  intro a b _ _ hab hba
  exact absurd hba (String.lt_asymm hab)

end ComponentType

end KeyedSql
