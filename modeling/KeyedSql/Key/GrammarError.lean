import KeyedSql.Key.Operation

/-!
# Grammar errors

Why a text is not a statement key, or not one of its parts. `GrammarError.message` holds the
wording.
-/

namespace KeyedSql

/-- Why a text was refused as a statement key or as a part of one. -/
inductive GrammarError where
  /-- The key does not begin with a type name, a slash and an operation. -/
  | missingHead (key : String)
  | invalidTypeName (token : String)
  | unknownOperation (name : String)
  /-- The key asks for another operation than the expected one. -/
  | wrongOperation (expected : Operation) (found : String)
  /-- A parameter that the operation needs is not given at all. -/
  | missingParameter (name : String)
  /-- The operation has no such parameter. -/
  | unexpectedParameter (name : String)
  /-- The parameter is one of the operation's, but not at this place. -/
  | parameterOutOfOrder (name : String)
  | duplicateParameter (name : String)
  /-- A list parameter names the same entry twice. -/
  | duplicateEntry (parameter entry : String)
  | emptyValue (parameter : String)
  /-- The parameter is given as a bare name, but takes a value. -/
  | missingValue (parameter : String)
  /-- The flag is given with a value. -/
  | unexpectedValue (parameter : String)
  /-- The token holds a delimiter of the key grammar. -/
  | reservedCharacter (token : String) (character : Char)
  | invalidToken (token : String)
  | invalidDirection (token : String)
  /-- The order entry is not a property and a direction. -/
  | malformedOrder (entry : String)
  /-- The join entry is not a table and two lists of columns. -/
  | malformedJoin (entry : String)
  deriving DecidableEq, Repr

namespace GrammarError

def message : GrammarError → String
  | missingHead key => s!"Key '{key}' is not of the form Type/operation"
  | invalidTypeName token => s!"Invalid component type name '{token}'"
  | unknownOperation name => s!"Unknown operation '{name}'"
  | wrongOperation expected found => s!"Expected operation '{expected.name}', found '{found}'"
  | missingParameter name => s!"Missing required parameter '{name}'"
  | unexpectedParameter name => s!"Unexpected parameter '{name}'"
  | parameterOutOfOrder name => s!"Parameter '{name}' is out of order"
  | duplicateParameter name => s!"Parameter '{name}' appears more than once"
  | duplicateEntry parameter entry => s!"Parameter '{parameter}' lists '{entry}' more than once"
  | emptyValue parameter => s!"Parameter '{parameter}' has an empty value"
  | missingValue parameter => s!"Parameter '{parameter}' requires a value"
  | unexpectedValue parameter => s!"Flag '{parameter}' does not take a value"
  | reservedCharacter token character => s!"Reserved character '{character}' in token '{token}'"
  | invalidToken token => s!"Invalid token '{token}'"
  | invalidDirection token => s!"Invalid sort direction '{token}' (expected Asc or Desc)"
  | malformedOrder entry => s!"Malformed order-by entry '{entry}'"
  | malformedJoin entry => s!"Malformed join entry '{entry}'"

end GrammarError

end KeyedSql
