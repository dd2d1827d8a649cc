import KeyedSql.Text.Ends
import KeyedSql.Toml.Atom
import KeyedSql.Toml.Quoted
import KeyedSql.Toml.Table

/-!
# Lines of a TOML text

A text is a sequence of lines: assignments, headers of tables, headers of elements of arrays of
tables, and lines with at most a comment. A value may itself run over several lines, so lines are
read one after the other from the characters of the whole text.

Neither brackets nor the parts of a key may go deeper than `depthLimit`. The readers of arrays and
inline tables also take fuel, one unit for each step into a value or on to the next item; every step
but the first takes a character, so the length of the text is enough.
-/

namespace KeyedSql.Toml

/-- How many brackets of values may be open at once, and how many parts a dotted key may have. -/
def depthLimit : Nat := 79

/-- A reader takes what it reads off the characters; it fails on anything else. -/
abbrev Reader := StateT (List Char) Option

namespace Reader

/-- The next character, which stays where it is. -/
def peek : Reader (Option Char) := fun cs => some (cs.head?, cs)

/-- Whether the characters begin with these, which are then taken. -/
def accept (lead : String) : Reader Bool := fun cs =>
  match Text.after? lead.toList cs with
  | some rest => some (true, rest)
  | none => some (false, cs)

/-- Takes these characters, which must come next. -/
def expect (lead : String) : Reader Unit := fun cs =>
  (Text.after? lead.toList cs).map fun rest => ((), rest)

/-- Takes characters as long as they are of a kind. -/
def takeWhile (p : Char → Bool) : Reader (List Char) := fun cs =>
  some (cs.takeWhile p, cs.dropWhile p)

/-- Whether the characters are at their end. -/
def atEnd : Reader Bool := fun cs => some (cs.isEmpty, cs)

/-- Takes spaces and tabs. -/
def blanks : Reader Unit := do
  let _ ← takeWhile fun c => c == ' ' || c == '\t'

/-- Takes a comment, if there is one. -/
def comment : Reader Unit := do
  if ← accept "#" then
    let _ ← takeWhile isPrintable

/-- Takes a line break, if there is one. -/
def lineBreak : Reader Bool := do
  if ← accept "\n" then return true
  accept "\r\n"

/-- Takes blanks, comments and line breaks; `fuel` bounds the number of lines. -/
def gap : Nat → Reader Unit
  | 0 => failure
  | fuel + 1 => do
    blanks
    comment
    if ← lineBreak then gap fuel

/-! ## Keys -/

/-- A bare key or a quoted one. -/
def simpleKey : Reader String := do
  let next ← peek
  if next = some '"' ∨ next = some '\'' then
    return String.ofList (← (quotedLine ·))
  let cs ← takeWhile isBareKeyChar
  if cs.isEmpty then failure
  return String.ofList cs

/-- At most so many keys with dots between them: those before the last, and the last. -/
def keyPath : Nat → Reader (List String × String)
  | 0 => failure
  | bound + 1 => do
    blanks
    let key ← simpleKey
    blanks
    if ← accept "." then
      let (parents, last) ← keyPath bound
      return (key :: parents, last)
    return ([], key)

/-- A dotted key: the keys before the last, and the last. -/
def dottedKey : Reader (List String × String) :=
  keyPath depthLimit

/-! ## Values -/

/-- The characters of words; a blank belongs to a word only between a date and a time. -/
def isWordChar (c : Char) : Bool :=
  c.isAlphanum || c == '_' || c == '-' || c == '+' || c == '.' || c == ':'

/-- A value without quotes or brackets. -/
def word : Reader Document := fun cs =>
  let short := cs.takeWhile isWordChar
  let rest := cs.dropWhile isWordChar
  let long := short ++ ' ' :: (rest.drop 1).takeWhile isWordChar
  match if isDate short && rest.head? = some ' ' then moment? long else none with
  | some moment => some (momentTable moment, (rest.drop 1).dropWhile isWordChar)
  | none => (atom? short).map fun d => (d, rest)

mutual

/-- A value of any kind, in which so many brackets may be open at once. -/
def value (levels : Nat) : Nat → Reader Document
  | 0 => failure
  | fuel + 1 => do
    match ← peek with
    | some '"' | some '\'' => return .text (String.ofList (← (quoted ·)))
    | some '[' =>
      expect "["
      match levels with
      | 0 => failure
      | levels + 1 => return .list (← items levels fuel)
    | some '\x7b' =>
      expect "\x7b"
      match levels with
      | 0 => failure
      | levels + 1 =>
        blanks
        if ← accept "\x7d" then return .table []
        match tableOf (← pairs levels fuel) with
        | some d => return d
        | none => failure
    | _ => word

/-- The items of an array, up to its closing bracket. -/
def items (levels : Nat) : Nat → Reader (List Document)
  | 0 => failure
  | fuel + 1 => do
    gap (← get).length.succ
    if ← accept "]" then return []
    let item ← value levels fuel
    gap (← get).length.succ
    if ← accept "," then return item :: (← items levels fuel)
    expect "]"
    return [item]

/-- The assignments of an inline table, up to its closing brace. -/
def pairs (levels : Nat) : Nat → Reader (List Assignment)
  | 0 => failure
  | fuel + 1 => do
    let (parents, key) ← dottedKey
    expect "="
    blanks
    let pair : Assignment := ⟨parents, key, ← value levels fuel⟩
    blanks
    if ← accept "," then return pair :: (← pairs levels fuel)
    expect "\x7d"
    return [pair]

end

/-! ## Lines -/

/-- The header of a table or of an element of an array of tables, its opening brackets taken. -/
def header (closing : String) : Reader (List String × String) := do
  let path ← dottedKey
  expect closing
  return path

/-- What a line says; nothing for a blank line or a comment. -/
def line : Reader (Option Line) := do
  blanks
  match ← peek with
  | none | some '#' | some '\n' | some '\r' => return none
  | some '[' =>
    if ← accept "[[" then
      let (parents, key) ← header "]]"
      return some (.element parents key)
    expect "["
    let (parents, key) ← header "]"
    return some (.table parents key)
  | some _ =>
    let (parents, key) ← dottedKey
    expect "="
    blanks
    return some (.assignment ⟨parents, key, ← value depthLimit ((← get).length + 2)⟩)

/-- All lines up to the end of the text; `fuel` bounds their number. -/
def lines : Nat → Reader (List Line)
  | 0 => failure
  | fuel + 1 => do
    let first ← line
    blanks
    comment
    if ← lineBreak then return first.toList ++ (← lines fuel)
    if ← atEnd then return first.toList
    failure

end Reader

/-- Reads a text; `none` if it is not well formed. -/
def parse (s : String) : Option Document := do
  let cs := s.toList
  let cs := if cs.head? = some (Char.ofNat 0xFEFF) then cs.drop 1 else cs
  let (lines, _) ← (Reader.lines cs.length.succ).run cs
  documentOf lines

end KeyedSql.Toml
