/-!
# Key generators

A generator is a sequence of keys: `KeyGenerator.key k` is the key of draw number `k`, counted from
zero. Counting generators run through the signed 64-bit integers and wrap around at the end. How
many keys have been drawn is no part of the generator; a session keeps that count.

Two generators of one description may number apart from each other. So a generator that several
statements can draw from is known by a serial number besides.
-/

namespace KeyedSql

/-- A generated identity value. -/
inductive KeyValue where
  | int (value : Int64)
  | text (value : String)
  deriving DecidableEq

/-- What a generator draws its keys from. -/
inductive KeySource where
  /-- Consecutive integers. -/
  | counting (first : Int64)
  /-- One text over and over. -/
  | constant (text : String)
  deriving DecidableEq

/-- A generator of identity values for new rows. -/
structure KeyGenerator where
  className : String
  /-- The sequence of the database that stands behind the generator. -/
  sequence : Option String
  /-- The query that fetches the next key from the database. -/
  selectKey : Option String
  source : KeySource
  deriving DecidableEq

/-- A generator that statements can share. -/
structure SharedGenerator where
  generator : KeyGenerator
  /-- Tells it from others of the same description. -/
  serial : Nat
  deriving DecidableEq

/-- What whoever asks for a generator is given. -/
inductive HeldGenerator where
  /-- A generator that nobody else has. -/
  | new (generator : KeyGenerator)
  /-- A generator that others may have, too. -/
  | shared (g : SharedGenerator)
  deriving DecidableEq

/-- The key of a draw, draws counted from zero. -/
def KeySource.key : KeySource → Nat → KeyValue
  | counting first, k => .int (first + Int64.ofNat k)
  | constant text, _ => .text text

namespace KeyGenerator

/-- The name of the class of counters. -/
def counterClass : String := "counter"

/-- The name of the class of database sequences. -/
def sequenceClass : String := "sequence"

/-- A generator whose select key, where it has a sequence, asks for the next value of it. -/
def ofSource (className : String) (sequence : Option String) (source : KeySource) : KeyGenerator :=
  { className, sequence, selectKey := sequence.map ("SELECT NEXT VALUE FOR " ++ ·), source }

/-- The integers from `first` on. -/
def counter (first : Int64) : KeyGenerator :=
  ofSource counterClass none (.counting first)

/-- A sequence of the database; without a database it numbers from one. -/
def ofSequence (name : String) : KeyGenerator :=
  ofSource sequenceClass (some name) (.counting 1)

/-- The key of a draw, draws counted from zero. -/
def key (g : KeyGenerator) (k : Nat) : KeyValue :=
  g.source.key k

end KeyGenerator

/-- The generator, whoever has it. -/
def HeldGenerator.generator : HeldGenerator → KeyGenerator
  | .new generator => generator
  | .shared g => g.generator

end KeyedSql
