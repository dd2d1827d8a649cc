import KeyedSql.Compile.Factory

/-!
# Sessions

A session compiles statements and draws keys from their generators. Compiling draws nothing. A
generator that is shared is one for all statements that have it, while a new one belongs to the
statement alone that it was built for; each draw takes the next key of its generator, so the number
of draws made from it so far is all there is to remember.
-/

namespace KeyedSql

/-- A generator that a session can draw from. -/
inductive GeneratorInstance where
  | shared (g : SharedGenerator)
  /-- The generator that was built for this statement of the session. -/
  | statement (number : Nat)
  deriving DecidableEq

/-- The generator that the statement of a number draws from, given what it was handed. -/
def HeldGenerator.instanceFor (number : Nat) : HeldGenerator → GeneratorInstance
  | .new _ => .statement number
  | .shared g => .shared g

/-- A course of compilations and draws. -/
structure Session where
  environment : Environment
  factories : List StatementFactory
  /-- The statements compiled so far, numbered from zero. -/
  statements : List Statement
  /-- The generators drawn from so far, the last draw first. -/
  draws : List GeneratorInstance

namespace Session

/-- A session in which nothing has happened. -/
def start (environment : Environment) (factories : List StatementFactory) : Session :=
  { environment, factories, statements := [], draws := [] }

/-- Keeps a statement that was compiled. -/
def keep (s : Session) : Except Error Statement → Session
  | .ok statement => { s with statements := s.statements ++ [statement] }
  | .error _ => s

/-- Compiles a key. -/
def compile (s : Session) (key : String) : Except Error Statement × Session :=
  let result := StatementFactory.dispatch s.factories s.environment key
  (result, s.keep result)

/-- The generator of a statement. -/
def generatorOf? (s : Session) (number : Nat) : Option (GeneratorInstance × KeyGenerator) := do
  let statement ← s.statements[number]?
  let generation ← statement.generatedKey
  return (generation.generator.instanceFor number, generation.generator.generator)

/-- The generator that is registered by a name. -/
def namedGenerator? (s : Session) (id : String) : Option (GeneratorInstance × KeyGenerator) :=
  (s.environment.generator? id).map fun named =>
    (.shared named.toSharedGenerator, named.generator)

/-- Draws the next key of a generator. -/
def draw (s : Session) (g : GeneratorInstance × KeyGenerator) : KeyValue × Session :=
  (g.2.key (s.draws.count g.1), { s with draws := g.1 :: s.draws })

/-- Draws the next few keys of a generator. -/
def drawMany (s : Session) (g : GeneratorInstance × KeyGenerator) : Nat → List KeyValue × Session
  | 0 => ([], s)
  | count + 1 =>
    let (key, s) := s.draw g
    let (keys, s) := s.drawMany g count
    (key :: keys, s)

end Session

end KeyedSql
