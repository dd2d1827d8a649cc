import KeyedSql.Document

/-!
# Values of a single word

Booleans, numbers, dates and times are words without quotes. Integers of 64 bits and booleans are
read for their values, and dates and times for their texts. Other numbers are only recognised,
because no configuration here has one; yet none may be too large for floating point of 64 bits.
-/

namespace KeyedSql.Toml

/-- Whether the characters are digits, single underscores allowed between two of them. -/
def isDigits (isDigit : Char → Bool) : List Char → Bool
  | [] => false
  | [c] => isDigit c
  | c :: '_' :: cs => isDigit c && isDigits isDigit cs
  | c :: cs => isDigit c && isDigits isDigit cs

/-- The number that digits of a base write, underscores left out. -/
def numberOf (base : Nat) (cs : List Char) : Nat :=
  (cs.filter (· ≠ '_')).foldl (fun n c =>
    let digit :=
      if c.isDigit then c.toNat - '0'.toNat else c.toLower.toNat - 'a'.toNat + 10
    base * n + digit) 0

/-- Whether the characters are a decimal number that begins with no needless zero. -/
def isDecimal (cs : List Char) : Bool :=
  isDigits Char.isDigit cs && (cs.head? != some '0' || cs.length == 1)

/-- The sign of a number and what follows it. -/
def splitSign : List Char → Bool × List Char
  | '-' :: cs => (true, cs)
  | '+' :: cs => (false, cs)
  | cs => (false, cs)

/-- An integer, if it fits into 64 bits. -/
def boundedInt? (n : Int) : Option Int :=
  if -0x8000000000000000 ≤ n ∧ n < 0x8000000000000000 then some n else none

/-- Reads an integer: decimal with or without a sign, or with a base before its digits. -/
def integer? : List Char → Option Int
  | '0' :: 'x' :: cs => if isDigits isHex cs then boundedInt? (numberOf 16 cs) else none
  | '0' :: 'o' :: cs => if isDigits isOctal cs then boundedInt? (numberOf 8 cs) else none
  | '0' :: 'b' :: cs => if isDigits isBinary cs then boundedInt? (numberOf 2 cs) else none
  | cs =>
    let (negative, digits) := splitSign cs
    if isDecimal digits then
      boundedInt? (if negative then -(numberOf 10 digits : Int) else numberOf 10 digits)
    else none
where
  /-- Whether a character is a binary digit. -/
  isBinary (c : Char) : Bool :=
    c == '0' || c == '1'
  /-- Whether a character is an octal digit. -/
  isOctal (c : Char) : Bool :=
    '0' ≤ c && c ≤ '7'
  /-- Whether a character is a hexadecimal digit. -/
  isHex (c : Char) : Bool :=
    c.isDigit || ('a' ≤ c && c ≤ 'f') || ('A' ≤ c && c ≤ 'F')

/-! ## Numbers with a fraction -/

/-- A number that is written with a fraction, an exponent or both: `digits` times ten to the power
of `exponent`. -/
structure Fraction where
  negative : Bool
  digits : Nat
  exponent : Int

/-- Reads a number with a fraction, an exponent or both. -/
def fraction? (cs : List Char) : Option Fraction :=
  let (negative, unsigned) := splitSign cs
  let isE (c : Char) : Bool := c == 'e' || c == 'E'
  let mantissa := unsigned.takeWhile fun c => !isE c
  let power := unsigned.dropWhile fun c => !isE c
  let whole := mantissa.takeWhile (· != '.')
  let part := mantissa.dropWhile (· != '.')
  let (below, powerDigits) := splitSign (power.drop 1)
  if isDecimal whole && (!part.isEmpty || !power.isEmpty) &&
      (part.isEmpty || isDigits Char.isDigit (part.drop 1)) &&
      (power.isEmpty || isDigits Char.isDigit powerDigits) then
    let size : Int := numberOf 10 powerDigits
    some {
      negative
      digits := numberOf 10 (whole ++ part.drop 1)
      exponent := (if below then -size else size) - (part.filter Char.isDigit).length }
  else none

/-- The least number that rounds to infinity in floating point of 64 bits: half a step above the
largest one there is. It has 309 digits. -/
def roundsToInfinity : Nat := (Nat.pow 2 54 - 1) * Nat.pow 2 970

/-- Whether the size of a number stays in the range of floating point of 64 bits. The number of
digits decides, unless it is that of the limit. -/
def Fraction.isFinite (f : Fraction) : Bool :=
  let places : Int := (Nat.toDigits 10 f.digits).length + f.exponent
  f.digits == 0 || places < 309 ||
    (places == 309 &&
      f.digits * Nat.pow 10 f.exponent.toNat < roundsToInfinity * Nat.pow 10 (-f.exponent).toNat)

/-- Whether the characters are the name of a number that no digits write. -/
def isNamedNumber (cs : List Char) : Bool :=
  let unsigned := (splitSign cs).2
  unsigned == "inf".toList || unsigned == "nan".toList

/-- Whether the characters are a number other than an integer. A negative one has no limit. -/
def isOtherNumber (cs : List Char) : Bool :=
  isNamedNumber cs || (fraction? cs).any fun f => f.negative || f.isFinite

/-! ## Dates and times -/

/-- Whether the characters follow a pattern, in which `d` stands for a digit. -/
def matchesPattern : List Char → List Char → Bool
  | [], [] => true
  | 'd' :: ps, c :: cs => c.isDigit && matchesPattern ps cs
  | p :: ps, c :: cs => p == c && matchesPattern ps cs
  | _, _ => false

/-- The number in some places of a pattern. -/
def field (start length : Nat) (cs : List Char) : Nat :=
  numberOf 10 ((cs.drop start).take length)

/-- The number of days of a month. -/
def daysInMonth (year month : Nat) : Nat :=
  if month = 2 then
    if year % 4 = 0 ∧ (year % 100 ≠ 0 ∨ year % 400 = 0) then 29 else 28
  else if month = 4 ∨ month = 6 ∨ month = 9 ∨ month = 11 then 30
  else 31

/-- Whether the characters are a date of the calendar. -/
def isDate (cs : List Char) : Bool :=
  let month := field 5 2 cs
  matchesPattern "dddd-dd-dd".toList cs && 1 ≤ month && month ≤ 12 &&
    1 ≤ field 8 2 cs && field 8 2 cs ≤ daysInMonth (field 0 4 cs) month

/-- The fraction of a second in its shortest form: nine digits are kept, and of these not the zeros
at the end. -/
def shortFraction (digits : List Char) : List Char :=
  match (digits.take 9).reverse.dropWhile (· == '0') with
  | [] => []
  | kept => '.' :: kept.reverse

/-- Reads a time of day, with or without a fraction of a second, and gives its shortest form. -/
def time? (cs : List Char) : Option (List Char) :=
  let part := cs.drop 8
  if matchesPattern "dd:dd:dd".toList (cs.take 8) && field 0 2 cs ≤ 23 && field 3 2 cs ≤ 59 &&
      field 6 2 cs ≤ 60 &&
      (part.isEmpty || (part.head? == some '.' && 2 ≤ part.length &&
        (part.drop 1).all Char.isDigit)) then
    some (cs.take 8 ++ shortFraction (part.drop 1))
  else none

/-- Reads a distance from universal time, which may be left out. No distance at all is not
negative. -/
def offset? (cs : List Char) : Option (List Char) :=
  if cs.isEmpty then some []
  else if cs == ['Z'] || cs == ['z'] then some ['Z']
  else if (cs.head? == some '+' || cs.head? == some '-') &&
      matchesPattern "dd:dd".toList (cs.drop 1) && field 1 2 cs ≤ 23 && field 4 2 cs ≤ 59 then
    if cs == "-00:00".toList then some "+00:00".toList else some cs
  else none

/-- Reads a date, a time of day, or both with or without an offset, and gives its usual form. -/
def moment? (cs : List Char) : Option (List Char) :=
  let date := cs.take 10
  let clock := cs.drop 11
  let isClock (c : Char) : Bool := c.isDigit || c == ':' || c == '.'
  if isDate cs then some cs
  else if isDate date && (cs[10]? == some 'T' || cs[10]? == some 't' || cs[10]? == some ' ') then do
    let time ← time? (clock.takeWhile isClock)
    let offset ← offset? (clock.dropWhile isClock)
    return date ++ 'T' :: time ++ offset
  else time? cs

/-- A date or a time: a table of one member, whose name belongs to nothing else. -/
def momentTable (cs : List Char) : Document :=
  .table (member "$__toml_private_datetime" (.text (String.ofList cs)))

/-! ## Words -/

/-- Reads a word. -/
def atom? (cs : List Char) : Option Document :=
  if cs = "true".toList then some (.bool true)
  else if cs = "false".toList then some (.bool false)
  else
    match integer? cs with
    | some n => some (.int n)
    | none => if isOtherNumber cs then some .other else (moment? cs).map momentTable

end KeyedSql.Toml
