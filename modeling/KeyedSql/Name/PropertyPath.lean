import KeyedSql.Name.Identifier
import KeyedSql.Text.Split

/-!
# Property paths

A path names a property of a component, or with dots a property of another component that is
reached through associations: every segment before the last is the name of an association.
-/

namespace KeyedSql

/-- One or more identifiers; all but the last lead to the component of the last. -/
structure PropertyPath where
  first : Identifier
  rest : List Identifier
  deriving DecidableEq

namespace PropertyPath

/-- The path of one segment. -/
def ofIdentifier (name : Identifier) : PropertyPath :=
  ⟨name, []⟩

/-- All segments in order. -/
def segments (p : PropertyPath) : List Identifier :=
  p.first :: p.rest

/-- The segments before the last. -/
def leading (p : PropertyPath) : List Identifier :=
  p.segments.dropLast

/-- The last segment. -/
def last (p : PropertyPath) : Identifier :=
  p.segments.getLast (List.cons_ne_nil _ _)

/-- Whether the path is a single segment. -/
def isSingle (p : PropertyPath) : Bool :=
  p.rest.isEmpty

/-- The segments with dots between them. -/
def text (p : PropertyPath) : String :=
  Text.join '.' (p.segments.map (·.text))

/-- Reads a path; the first segment that is no identifier is reported. -/
def parse (token : String) : Except GrammarError PropertyPath := do
  let runs := Text.splitChars '.' token.toList
  let first ← Identifier.parse (String.ofList runs.1)
  let rest ← runs.2.mapM fun run => Identifier.parse (String.ofList run)
  return ⟨first, rest⟩

theorem leading_append_last (p : PropertyPath) : p.leading ++ [p.last] = p.segments :=
  List.dropLast_concat_getLast _

theorem segments_ne_nil (p : PropertyPath) : p.segments ≠ [] :=
  List.cons_ne_nil _ _

end PropertyPath

end KeyedSql
