import KeyedSql.Schema.Form
import KeyedSql.Statement.Basic

/-!
# Configs

A config names the schema file of a project, the components that have caches and the generator
classes behind the named key generators. `Config.text` writes it and `Config.ofText` reads it.
-/

namespace KeyedSql

/-- The components that have a cache. -/
inductive CachedComponents where
  | all
  | only (components : List ComponentType)
  deriving DecidableEq

/-- The settings of a project. -/
structure Config where
  /-- The path of the schema file, from the directory of the config. -/
  schema : String
  caches : CachedComponents
  /-- The class behind each named generator, ordered by name. -/
  keyGenerators : List (String × String)
  deriving DecidableEq

namespace CachedComponents

/-- Reads a selection: the wildcard, or a list of components. -/
def ofDocument : Document → Except DocumentError CachedComponents
  | .text s => if s = "*" then .ok .all else .error (.cacheWildcard s)
  | .list items =>
    match items.mapM Document.toComponentType with
    | .ok components => .ok (.only components)
    | .error _ => .error .wrongType
  | _ => .error .wrongType

/-- Writes a selection. -/
def document : CachedComponents → Document
  | all => .text "*"
  | only components => .texts (components.map (·.text))

/-- The text of a selection in a config; a list of several components has a line for each. -/
def text : CachedComponents → String
  | all => Toml.quote "*"
  | only [] => "[]"
  | only [c] => "[" ++ Toml.quote c.text ++ "]"
  | only components =>
    "[\n" ++ String.join (components.map fun c => "    " ++ Toml.quote c.text ++ ",\n") ++ "]"

end CachedComponents

namespace Config

/-- The config of a new project. -/
def default : Config :=
  { schema := "schema.toml", caches := .all, keyGenerators := [] }

/-- A config of which nothing may be known yet. -/
structure Draft where
  schema : Option String
  caches : CachedComponents
  keyGenerators : List (String × String)

/-- Reads named generators. -/
def readGenerators : Document → Except DocumentError (List (String × String))
  | .table members => do
    let generators ← members.mapM fun m => do return (m.1, ← m.2.toText)
    return generators.mergeSort fun a b => decide (a.1 ≤ b.1)
  | _ => .error .wrongType

/-- Takes in a member. -/
def Draft.add (draft : Draft) (name : String) (d : Document) : Except DocumentError Draft :=
  match name with
  | "schema" => do return { draft with schema := some (← d.toText) }
  | "caches" => do return { draft with caches := ← CachedComponents.ofDocument d }
  | "key_generators" => do return { draft with keyGenerators := ← readGenerators d }
  | _ => .ok draft

/-- Reads a config. -/
def ofDocument (surplus : Document.Surplus) (d : Document) : Except DocumentError Config := do
  let draft ← d.toRecord surplus 1 ["schema", "caches", "key_generators"] Draft.add ⟨none, .all, []⟩
  return {
    schema := ← Document.given "schema" draft.schema
    caches := draft.caches, keyGenerators := draft.keyGenerators }

/-- Reads the text of a config. -/
def ofText (text : String) : Except DocumentError Config := do
  ofDocument .dropped (← Toml.document text)

/-- Writes a config. -/
def document (c : Config) : Document :=
  .table <|
    member "schema" (.text c.schema) ++
    member "caches" c.caches.document ++
    member "key_generators" (.table (c.keyGenerators.map fun g => (g.1, .text g.2)))

/-- The text of a config. -/
def text (c : Config) : String :=
  "schema = " ++ Toml.quote c.schema ++ "\n" ++
  "caches = " ++ c.caches.text ++ "\n" ++
  "\n[key_generators]\n" ++
  String.join (c.keyGenerators.map fun g => Toml.quoteKey g.1 ++ " = " ++ Toml.quote g.2 ++ "\n")

end Config

namespace Environment

/-- Gives the selected components a cache; a component that is selected by name must be
registered. -/
def addSelectedCaches (env : Environment) : CachedComponents → Except ConfigError Environment
  | .all => .ok (env.registry.types.foldl addCache env)
  | .only components =>
    components.foldlM
      (fun env c =>
        if env.registry.contains c then .ok (env.addCache c)
        else .error (.unknownCacheComponent c)) env

/-- Registers what the class of a name builds for no statement in particular. -/
def addConfiguredGenerator (env : Environment) (id className : String) :
    Except ConfigError Environment := do
  return env.addGenerator id (env.share (← GeneratorClass.buildPlain env.classes className))

/-- The environment of a registry under a config. -/
def ofConfig (registry : Registry) (config : Config) : Except ConfigError Environment := do
  let env ← (ofRegistry registry).addSelectedCaches config.caches
  config.keyGenerators.foldlM (fun env g => env.addConfiguredGenerator g.1 g.2) env

end Environment

end KeyedSql
