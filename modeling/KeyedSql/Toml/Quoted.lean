/-!
# Quoted strings

TOML has four kinds of quoted strings. Basic strings stand between double quotes and have escapes;
literal strings stand between single quotes and have none; both have a form between tripled quotes
that may run over several lines. Each reader here begins behind the opening quotes and gives the
text together with what follows the closing ones.

`quote` writes a text as the kind of string in which the least has to be escaped.
-/

namespace KeyedSql.Toml

/-! ## Characters -/

/-- The character of an escape of one letter. -/
def simpleEscape? : Char → Option Char
  | 'b' => some (Char.ofNat 0x08)
  | 't' => some '\t'
  | 'n' => some '\n'
  | 'f' => some (Char.ofNat 0x0C)
  | 'r' => some '\r'
  | '"' => some '"'
  | '\\' => some '\\'
  | _ => none

/-- The value of a hexadecimal digit. -/
def hexDigit? (c : Char) : Option Nat :=
  if c.isDigit then some (c.toNat - '0'.toNat)
  else if 'a' ≤ c ∧ c ≤ 'f' then some (c.toNat - 'a'.toNat + 10)
  else if 'A' ≤ c ∧ c ≤ 'F' then some (c.toNat - 'A'.toNat + 10)
  else none

/-- The number that hexadecimal digits write. -/
def hexNumber? (digits : List Char) : Option Nat :=
  digits.foldlM (fun n c => (hexDigit? c).map (16 * n + ·)) 0

/-- The character whose code hexadecimal digits write. -/
def hexChar? (digits : List Char) : Option Char :=
  (hexNumber? digits).bind fun n => if n.isValidChar then some (Char.ofNat n) else none

/-- The characters that stand for themselves in a line: no control character but the tab. -/
def isPrintable (c : Char) : Bool :=
  c == '\t' || (0x20 ≤ c.toNat && c.toNat != 0x7F)

/-- The characters that stand for themselves in a literal string. -/
def isLiteralChar (c : Char) : Bool :=
  isPrintable c && c != '\''

/-- Puts a character before what has been read. -/
def consRead (c : Char) (read : Option (List Char × List Char)) : Option (List Char × List Char) :=
  read.map fun p => (c :: p.1, p.2)

/-! ## Reading -/

/-- Reads a basic string of one line. -/
def basic : List Char → Option (List Char × List Char)
  | [] => none
  | '"' :: cs => some ([], cs)
  | '\\' :: 'u' :: a :: b :: c :: d :: cs => do consRead (← hexChar? [a, b, c, d]) (basic cs)
  | '\\' :: 'U' :: a :: b :: c :: d :: e :: f :: g :: h :: cs => do
    consRead (← hexChar? [a, b, c, d, e, f, g, h]) (basic cs)
  | '\\' :: c :: cs => do consRead (← simpleEscape? c) (basic cs)
  | c :: cs => if isPrintable c && c != '\\' then consRead c (basic cs) else none

/-- Reads a literal string of one line. -/
def literal : List Char → Option (List Char × List Char)
  | [] => none
  | '\'' :: cs => some ([], cs)
  | c :: cs => if isPrintable c then consRead c (literal cs) else none

/-- What a reader of lines does with white space: after a backslash at the end of a line it drops
what there is up to the next visible character. -/
inductive Blank where
  | kept
  /-- The line has to end before anything visible comes. -/
  | droppedToLineEnd
  | dropped
  deriving DecidableEq

/-- Reads a basic string of several lines. -/
def basicLines (blank : Blank) : List Char → Option (List Char × List Char)
  | '"' :: '"' :: '"' :: '"' :: '"' :: cs =>
    if blank = .droppedToLineEnd then none else some (['"', '"'], cs)
  | '"' :: '"' :: '"' :: '"' :: cs =>
    if blank = .droppedToLineEnd then none else some (['"'], cs)
  | '"' :: '"' :: '"' :: cs =>
    if blank = .droppedToLineEnd then none else some ([], cs)
  | '\r' :: '\n' :: cs =>
    if blank = .kept then consRead '\n' (basicLines .kept cs) else basicLines .dropped cs
  | '\n' :: cs =>
    if blank = .kept then consRead '\n' (basicLines .kept cs) else basicLines .dropped cs
  | '\\' :: 'u' :: a :: b :: c :: d :: cs =>
    if blank = .droppedToLineEnd then none
    else do consRead (← hexChar? [a, b, c, d]) (basicLines .kept cs)
  | '\\' :: 'U' :: a :: b :: c :: d :: e :: f :: g :: h :: cs =>
    if blank = .droppedToLineEnd then none
    else do consRead (← hexChar? [a, b, c, d, e, f, g, h]) (basicLines .kept cs)
  | '\\' :: '\n' :: cs => if blank = .droppedToLineEnd then none else basicLines .dropped cs
  | '\\' :: '\r' :: '\n' :: cs => if blank = .droppedToLineEnd then none else basicLines .dropped cs
  | '\\' :: c :: cs =>
    if blank = .droppedToLineEnd then none
    else if c = ' ' ∨ c = '\t' then basicLines .droppedToLineEnd cs
    else do consRead (← simpleEscape? c) (basicLines .kept cs)
  | c :: cs =>
    if blank ≠ .kept ∧ (c = ' ' ∨ c = '\t') then basicLines blank cs
    else if blank ≠ .droppedToLineEnd ∧ isPrintable c ∧ c ≠ '\\' then
      consRead c (basicLines .kept cs)
    else none
  | [] => none

/-- Reads a literal string of several lines. -/
def literalLines : List Char → Option (List Char × List Char)
  | '\'' :: '\'' :: '\'' :: '\'' :: '\'' :: cs => some (['\'', '\''], cs)
  | '\'' :: '\'' :: '\'' :: '\'' :: cs => some (['\''], cs)
  | '\'' :: '\'' :: '\'' :: cs => some ([], cs)
  | '\r' :: '\n' :: cs => consRead '\n' (literalLines cs)
  | '\n' :: cs => consRead '\n' (literalLines cs)
  | c :: cs => if isPrintable c then consRead c (literalLines cs) else none
  | [] => none

/-- The characters without a line break at their beginning. -/
def dropLineBreak : List Char → List Char
  | '\n' :: cs => cs
  | '\r' :: '\n' :: cs => cs
  | cs => cs

/-- Reads a quoted string of one line, opening quotes included. -/
def quotedLine : List Char → Option (List Char × List Char)
  | '"' :: cs => basic cs
  | '\'' :: cs => literal cs
  | _ => none

/-- Reads a quoted string of any kind, opening quotes included. -/
def quoted : List Char → Option (List Char × List Char)
  | '"' :: '"' :: '"' :: cs => basicLines .kept (dropLineBreak cs)
  | '\'' :: '\'' :: '\'' :: cs => literalLines (dropLineBreak cs)
  | cs => quotedLine cs

/-! ## Writing -/

/-- A character between basic quotes. -/
def escapeChar (c : Char) : List Char :=
  if c = '"' then ['\\', '"']
  else if c = '\\' then ['\\', '\\']
  else if c = '\n' then ['\\', 'n']
  else if c = '\t' then ['\\', 't']
  else if c = '\r' then ['\\', 'r']
  else if c.toNat = 0x08 then ['\\', 'b']
  else if c.toNat = 0x0C then ['\\', 'f']
  else if c.toNat < 0x20 ∨ c.toNat = 0x7F then
    ['\\', 'u', '0', '0', (Nat.digitChar (c.toNat / 16)).toUpper,
      (Nat.digitChar (c.toNat % 16)).toUpper]
  else [c]

/-- A text between basic quotes. -/
def escape (cs : List Char) : List Char :=
  cs.flatMap escapeChar

/-- A text between tripled basic quotes: line breaks stay, and so do two quotes side by side, but
not a third. `quotes` counts the quotes just before. -/
def escapeLines (quotes : Nat) : List Char → List Char
  | [] => []
  | c :: cs =>
    if c = '"' then
      if quotes = 2 then '\\' :: '"' :: escapeLines 0 cs else '"' :: escapeLines (quotes + 1) cs
    else if c = '\n' then '\n' :: escapeLines 0 cs
    else escapeChar c ++ escapeLines 0 cs

/-- Whether a character stands three times side by side. -/
def hasTriple (quote : Char) : List Char → Bool
  | [] => false
  | c :: cs => (List.replicate 3 quote).isPrefixOf (c :: cs) || hasTriple quote cs

/-- The four kinds of quoted strings. -/
inductive Quoting where
  | basic
  | literal
  | basicLines
  | literalLines
  deriving DecidableEq

/-- The first kind of string in which nothing of the text but tabs has to be escaped; else a basic
one. -/
def quotingOf (cs : List Char) : Quoting :=
  let oneLine := !cs.contains '\n'
  if !cs.all fun c => isPrintable c || c == '\n' then
    if oneLine then .basic else .basicLines
  else if oneLine && !cs.contains '\\' && !cs.contains '"' then .basic
  else if oneLine && !cs.contains '\'' then .literal
  else if !cs.contains '\\' && !hasTriple '"' cs then .basicLines
  else if !hasTriple '\'' cs then .literalLines
  else if oneLine then .basic
  else .basicLines

/-- What stands between tripled quotes; a text with line breaks begins on a line of its own. -/
def linesContent (cs content : List Char) : List Char :=
  if cs.contains '\n' then '\n' :: content else content

/-- A text as a value. -/
def quote (s : String) : String :=
  let cs := s.toList
  match quotingOf cs with
  | .basic => "\"" ++ String.ofList (escape cs) ++ "\""
  | .literal => "'" ++ s ++ "'"
  | .basicLines => "\"\"\"" ++ String.ofList (linesContent cs (escapeLines 0 cs)) ++ "\"\"\""
  | .literalLines => "'''" ++ String.ofList (linesContent cs cs) ++ "'''"

/-- The characters of keys that need no quotes. -/
def isBareKeyChar (c : Char) : Bool :=
  c.isAlphanum || c == '_' || c == '-'

/-- A text as a key: without quotes if it may stand so, else on one line. -/
def quoteKey (s : String) : String :=
  let cs := s.toList
  if !cs.isEmpty && cs.all isBareKeyChar then s
  else if cs.all isLiteralChar && (cs.contains '"' || cs.contains '\\') then "'" ++ s ++ "'"
  else "\"" ++ String.ofList (escape cs) ++ "\""

end KeyedSql.Toml
