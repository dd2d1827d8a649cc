import KeyedSql.Project.Config
import KeyedSql.Project.Files

/-!
# Projects

A project is a config file with the schema that it names. The schema's path begins at the directory
of the config.
-/

namespace KeyedSql

/-- Why a command on a project fails. -/
inductive ProjectError where
  /-- There is no config file. -/
  | noConfig (path : String)
  /-- There is a config file already. -/
  | configExists (path : String)
  /-- The config file cannot be read or written. -/
  | configFile (cause : FileError)
  /-- The config was refused. -/
  | configDocument (cause : DocumentError)
  /-- The project is there, but does not do what is asked of it. -/
  | failed (cause : Error)
  deriving DecidableEq

/-- The wording of a project error; of a refused document, the heading alone. -/
def ProjectError.message : ProjectError → String
  | noConfig path => s!"no config at {path} (run \x60compsql init\x60 first)"
  | configExists path => s!"config already exists at {path} (use --force to overwrite)"
  | configFile cause => cause.message
  | configDocument _ => DocumentError.heading
  | failed cause => cause.message

namespace ProjectError

/-- What goes wrong with a config file. -/
def onConfigFile {m : Type → Type} [Monad m] {α : Type} (result : m (Except FileError α)) :
    ExceptT ProjectError m α := do
  match ← result with
  | .ok a => return a
  | .error e => throw (.configFile e)

/-- What goes wrong with a project that is there. -/
def onProject {m : Type → Type} [Monad m] {α : Type} (result : Except Error α) :
    ExceptT ProjectError m α :=
  match result with
  | .ok a => return a
  | .error e => throw (.failed e)

end ProjectError

variable {m : Type → Type} [Monad m]

namespace Config

/-- The path of the config file, where no other is given. -/
def defaultPath : String := "compsql.toml"

/-- Loads a config, if there is one. -/
def load (files : FileAccess m) (path : String) : ExceptT ProjectError m (Option Config) := do
  if !(← files.exist path) then return none
  let content ← ProjectError.onConfigFile (files.read path)
  match Config.ofText content with
  | .ok config => return some config
  | .error e => throw (.configDocument e)

/-- Writes a config, in place of an old one only if that is forced. -/
def save (files : FileAccess m) (path : String) (config : Config) (force : Bool) :
    ExceptT ProjectError m Unit := do
  if (← files.exist path) && !force then throw (.configExists path)
  ProjectError.onConfigFile (files.write path config.text)

end Config

namespace Environment

/-- The environment of a schema text under a config. -/
def ofSchemaText (config : Config) (schema : String) : Except Error Environment := do
  ofConfig (← Registry.ofText schema) config

/-- The environment of a config whose paths begin at a directory. -/
def ofProject (files : FileAccess m) (config : Config) (directory : String) :
    m (Except Error Environment) := do
  match ← files.read (FilePath.join directory config.schema) with
  | .ok schema => return ofSchemaText config schema
  | .error e => return .error (.file e)

/-- The environment of the project whose config is at a path. -/
def load (files : FileAccess m) (path : String) : ExceptT ProjectError m Environment := do
  match ← Config.load files path with
  | none => throw (.noConfig path)
  | some config =>
    let result ← ExceptT.lift (ofProject files config (FilePath.directory path))
    ProjectError.onProject result

end Environment

end KeyedSql
