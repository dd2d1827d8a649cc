import KeyedSql.Name.Token

/-!
# Identifiers

An `Identifier` carries the proof that its text is one, so nothing downstream checks again.
-/

namespace KeyedSql

/-- A name without dots, such as a property name or the name of a join column. -/
structure Identifier where
  text : String
  isIdentifier_text : Token.isIdentifier text.toList = true
  deriving DecidableEq

namespace Identifier

/-- Reads an identifier. -/
def parse (token : String) : Except GrammarError Identifier :=
  match h : Token.requireIdentifier token with
  | .ok () => .ok ⟨token, Token.requireIdentifier_eq_ok_iff.1 h⟩
  | .error e => .error e

@[ext]
theorem ext {a b : Identifier} (h : a.text = b.text) : a = b := by
  cases a; cases b; cases h; rfl

theorem parse_text (id : Identifier) : parse id.text = .ok id := by
  unfold parse
  split
  · rfl
  · have := Token.requireIdentifier_eq_ok_iff.2 id.isIdentifier_text
    simp_all

theorem parse_eq_ok_iff {token : String} {id : Identifier} :
    parse token = .ok id ↔ token = id.text := by
  constructor
  · unfold parse
    split
    · rintro ⟨⟩
      rfl
    · simp
  · rintro rfl
    exact parse_text id

theorem parse_eq_error_iff {token : String} {e : GrammarError} :
    parse token = .error e ↔ Token.requireIdentifier token = .error e := by
  unfold parse
  split <;> simp_all

theorem notMem_of_mem_delimiters {c : Char} (hc : c ∈ Token.delimiters) (id : Identifier) :
    c ∉ id.text.toList :=
  Token.notMem_of_mem_delimiters_of_isIdentifier hc id.isIdentifier_text

end Identifier

end KeyedSql
