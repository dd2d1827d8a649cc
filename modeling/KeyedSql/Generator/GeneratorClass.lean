import KeyedSql.Generator.KeyGenerator
import KeyedSql.Schema.Registry

/-!
# Generator classes

A class hands out generators on demand: for the identity property of a statement's component, or for
no statement in particular. The first way is preferred, and its failure is final.

What is handed out for a statement may depend on all that the statement is compiled against. Of the
classes themselves, that is which ones there are and what they hand out for no statement.
-/

namespace KeyedSql

/-- A generator under the name that it was registered by. -/
structure NamedGenerator extends SharedGenerator where
  id : String
  deriving DecidableEq

/-- What statements are compiled against, apart from generator classes. -/
structure Setting where
  registry : Registry
  /-- The components that have a cache. -/
  caches : List ComponentType
  generators : List NamedGenerator

/-- What a class looks like to another one. -/
structure ClassProfile where
  name : String
  /-- Whether the class can build a generator for a statement. -/
  forSite : Bool
  plain : Option HeldGenerator

/-- The statement that a generator is built for, and what it is compiled against. -/
structure GeneratorSite extends Setting where
  classes : List ClassProfile
  key : String
  component : ComponentType
  property : String

/-- A named way of building generators. -/
structure GeneratorClass where
  name : String
  /-- How to build a generator for a statement. -/
  forSite : Option (GeneratorSite → Except ConfigError HeldGenerator)
  /-- What the class hands out for no statement in particular. -/
  plain : Option HeldGenerator

/-- The wish for a class or a generator by name. -/
def GeneratorSite.wish (site : GeneratorSite) (name : String) : GeneratorWish :=
  { name, component := site.component, property := site.property }

namespace GeneratorClass

/-- What another class sees of a class. -/
def profile (c : GeneratorClass) : ClassProfile :=
  { name := c.name, forSite := c.forSite.isSome, plain := c.plain }

/-- Builds a generator for a statement. -/
def build (c : GeneratorClass) (site : GeneratorSite) : Except ConfigError HeldGenerator :=
  let failure := ConfigError.generatorNotBuilt (site.wish c.name)
  match c.forSite with
  | some construct => (construct site).mapError fun _ => failure
  | none =>
    match c.plain with
    | some g => .ok g
    | none => .error failure

/-- Counters that start at one. -/
def counter : GeneratorClass :=
  ⟨KeyGenerator.counterClass, none, some (.new (KeyGenerator.counter 1))⟩

/-- The sequence named after the table of the site's component. -/
def tableSequence (site : GeneratorSite) : Except ConfigError HeldGenerator := do
  let c ← site.registry.component site.component
  return .new (KeyGenerator.ofSequence ("SEQ_" ++ (← c.tableName)))

/-- Sequences of the database, one for each table. -/
def sequence : GeneratorClass :=
  ⟨KeyGenerator.sequenceClass, some tableSequence, none⟩

/-- The classes that are always there. -/
def builtins : List GeneratorClass :=
  [counter, sequence]

/-- The class of a name. -/
def find? (classes : List GeneratorClass) (name : String) : Option GeneratorClass :=
  classes.find? (·.name == name)

/-- Adds a class in place of any other of its name. -/
def register (c : GeneratorClass) (classes : List GeneratorClass) : List GeneratorClass :=
  c :: classes.filter (·.name ≠ c.name)

/-- What the class of a name hands out for no statement in particular. -/
def buildPlain (classes : List GeneratorClass) (name : String) : Except ConfigError HeldGenerator :=
  match find? classes name with
  | none => .error (.unknownGeneratorClass name)
  | some c =>
    match c.plain with
    | some g => .ok g
    | none => .error (.noDefaultConstructor name)

/-- What the class of a name hands out for a statement. -/
def buildFor (classes : List GeneratorClass) (site : GeneratorSite) (name : String) :
    Except ConfigError HeldGenerator :=
  match find? classes name with
  | none => .error (.unknownWishedClass (site.wish name))
  | some c => c.build site

end GeneratorClass

end KeyedSql
