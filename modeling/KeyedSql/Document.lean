/-!
# Documents

A `Document` is data without a schema: what a configuration file says and what a report in JSON
shows. Tables keep their members in the order in which they are given.

In JSON, lists and tables are written with one item or member to a line, indented by two spaces for
each level; empty ones are written without a line break. In texts, quotes, backslashes and control
characters are escaped, and nothing else.
-/

namespace KeyedSql

/-- A tree of values. -/
inductive Document where
  | null
  | bool (value : Bool)
  | int (value : Int)
  | text (value : String)
  | list (items : List Document)
  | table (members : List (String × Document))
  /-- A value of a kind that nothing here looks into: a number that is no integer. -/
  | other
  deriving Inhabited

namespace Document

/-- A list of texts. -/
def texts (values : List String) : Document :=
  .list (values.map .text)

end Document

/-- The member of a name and a value. -/
def member (name : String) (value : Document) : List (String × Document) :=
  [(name, value)]

/-- The member of a name, left out where there is no value. -/
def optionalMember (name : String) (value : Option Document) : List (String × Document) :=
  match value with
  | some value => member name value
  | none => []

/-! ## JSON -/

namespace Json

/-- The four hexadecimal digits of a control character. -/
def hexDigits (n : Nat) : List Char :=
  ['0', '0', Nat.digitChar (n / 16), Nat.digitChar (n % 16)]

/-- A character inside a text. -/
def escapeChar (c : Char) : List Char :=
  if c = '"' then ['\\', '"']
  else if c = '\\' then ['\\', '\\']
  else if c = '\n' then ['\\', 'n']
  else if c = '\r' then ['\\', 'r']
  else if c = '\t' then ['\\', 't']
  else if c.toNat = 0x08 then ['\\', 'b']
  else if c.toNat = 0x0C then ['\\', 'f']
  else if c.toNat < 0x20 then '\\' :: 'u' :: hexDigits c.toNat
  else [c]

/-- A text between its quotes. -/
def quote (s : String) : String :=
  "\"" ++ String.ofList (s.toList.flatMap escapeChar) ++ "\""

/-- A line break and the indentation of a level. -/
def newline (level : Nat) : String :=
  "\n" ++ String.ofList (List.replicate (2 * level) ' ')

/-- Lines one level deeper, between brackets. -/
def block (level : Nat) (opening closing : String) (lines : List String) : String :=
  match lines with
  | [] => opening ++ closing
  | lines =>
    opening ++ newline (level + 1) ++ ("," ++ newline (level + 1)).intercalate lines ++
      newline level ++ closing

mutual

/-- A document whose first line stands at the given level. -/
def render (level : Nat) : Document → String
  | .null | .other => "null"
  | .bool b => if b then "true" else "false"
  | .int n => toString n
  | .text s => quote s
  | .list items => block level "[" "]" (renderItems (level + 1) items)
  | .table members => block level "\x7b" "\x7d" (renderMembers (level + 1) members)

/-- The items of a list. -/
def renderItems (level : Nat) : List Document → List String
  | [] => []
  | item :: items => render level item :: renderItems level items

/-- The members of a table. -/
def renderMembers (level : Nat) : List (String × Document) → List String
  | [] => []
  | (name, value) :: members =>
    (quote name ++ ": " ++ render level value) :: renderMembers level members

end

/-- A whole document. -/
def text (d : Document) : String :=
  render 0 d

end Json

end KeyedSql
