import KeyedSql.Name.ComponentType
import KeyedSql.Name.PropertyPath

/-!
# Errors

Every way in which a schema, a config or a statement is refused is a constructor of its own; the
wording stands in the `message` functions alone.
-/

namespace KeyedSql

/-- The place in a chain of joins at which two lists of columns meet. -/
inductive JoinPlace where
  /-- The step of this number, counted from one, with its join table. -/
  | step (number : Nat) (table : Identifier)
  /-- The end of the chain. -/
  | target (component : ComponentType)
  deriving DecidableEq

/-- A generator class that is wanted for the identity property of a component. -/
structure GeneratorWish where
  name : String
  component : ComponentType
  property : String
  deriving DecidableEq

/-- Why the declarations of components do not support what is asked of them. -/
inductive ConfigError where
  | emptyValueType
  | invalidValueType (text : String)
  | unknownComponent (component : ComponentType)
  | unknownProperty (component : ComponentType) (property : String)
  | duplicateComponent (component : ComponentType)
  /-- The component has no table, or a blank one. -/
  | missingTable (component : ComponentType)
  /-- The version is stored as something else than an integer. -/
  | versionNotInteger (component : ComponentType) (property : String)
  /-- The property is declared a collection, but its type is none. -/
  | notACollection (component : ComponentType) (property : String) (type : String)
  /-- A path leads through a property that is no single-valued association. -/
  | notAnAssociation (component : ComponentType) (path : PropertyPath) (segment : Identifier)
  /-- A declared column has a blank name. -/
  | blankColumn (component : ComponentType) (property : String) (localized : Bool)
  | missingColumn (component : ComponentType) (property : String)
  | missingLocalizedColumn (component : ComponentType) (property : String)
  | missingIdentity (component : ComponentType)
  /-- The component has no property that marks cancelled rows. -/
  | missingCancelFlag (component : ComponentType)
  /-- The component maps no column at all. -/
  | noMappedColumn (component : ComponentType)
  /-- An update of the component would assign nothing. -/
  | nothingToUpdate (component : ComponentType)
  /-- Two lists of join columns have different lengths. -/
  | columnCountMismatch (place : JoinPlace) (columns previous : Nat)
  /-- No key generator is registered under the identifier of the wish. -/
  | unknownGenerator (wish : GeneratorWish)
  /-- The wished class is not registered. -/
  | unknownWishedClass (wish : GeneratorWish)
  /-- The wished class could not build a generator. -/
  | generatorNotBuilt (wish : GeneratorWish)
  | unknownGeneratorClass (name : String)
  /-- The class can build no generator without a statement to build it for. -/
  | noDefaultConstructor (name : String)
  | unknownCacheComponent (component : ComponentType)
  /-- A generator class reported a failure of its own. -/
  | reported (text : String)
  deriving DecidableEq

/-- Why the text of a declaration cannot be read. -/
inductive DeclarationError where
  | grammar (cause : GrammarError)
  | configuration (cause : ConfigError)
  deriving DecidableEq

/-- Why a schema or a config document was refused. -/
inductive DocumentError where
  | malformed
  | missingMember (name : String)
  /-- A member holds a text that is not what it should be. -/
  | declaration (cause : DeclarationError)
  /-- The cache selection is a text other than the wildcard. -/
  | cacheWildcard (text : String)
  | wrongType
  deriving DecidableEq

/-- Why a file cannot be read or written. -/
inductive FileError where
  | missing
  /-- A file stands where the path needs a directory. -/
  | notADirectory
  /-- A directory stands where the file should be. -/
  | isADirectory
  /-- A name in the path is too long, or the whole path is. -/
  | nameTooLong
  /-- The path has a null character in it. -/
  | nullCharacter
  deriving DecidableEq

/-- Why a request was not carried out. -/
inductive Error where
  | grammar (cause : GrammarError)
  | configuration (cause : ConfigError)
  | notFound (key : String)
  | file (cause : FileError)
  | document (cause : DocumentError)
  deriving DecidableEq

namespace JoinPlace

def text : JoinPlace → String
  | step number table => s!"join step {number} ({table.text})"
  | target component => s!"target {component.text}"

end JoinPlace

namespace GeneratorWish

def text (wish : GeneratorWish) : String :=
  s!"{wish.name} for component={wish.component.text} for id={wish.property}"

end GeneratorWish

namespace ConfigError

def message : ConfigError → String
  | emptyValueType => "Empty value type"
  | invalidValueType text => s!"Invalid value type '{text}'"
  | unknownComponent c => s!"Unknown component {c.text}"
  | unknownProperty c property => s!"Unknown property {property} for component {c.text}"
  | duplicateComponent c => s!"Component {c.text} already registered"
  | missingTable c => s!"Not found table name for component {c.text}"
  | versionNotInteger c property =>
    s!"Not int or long type of version for component={c.text} with property={property}"
  | notACollection c property type =>
    s!"Not accept type for collection for component={c.text} with property={property} type={type}"
  | notAnAssociation c path segment =>
    s!"Property {segment.text} not accepted in path {path.text} of component {c.text}, " ++
      "not a component association"
  | blankColumn c property localized =>
    let what := if localized then "localized column" else "column"
    s!"Not name in {what} for component={c.text} with property={property}"
  | missingColumn c property =>
    s!"Not found column for component={c.text} with property={property}"
  | missingLocalizedColumn c property =>
    s!"Not found localized column for component={c.text} with property={property}"
  | missingIdentity c => s!"Not found identity for component={c.text}"
  | missingCancelFlag c => s!"Not found cancel flag for component={c.text}"
  | noMappedColumn c => s!"Not found column for component={c.text}"
  | nothingToUpdate c => s!"Not found column to update for component={c.text}"
  | columnCountMismatch place columns previous =>
    s!"Column count mismatch in {place.text}: {columns} columns joined to {previous}"
  | unknownGenerator wish => s!"Not found key generator {wish.text}"
  | unknownWishedClass wish => s!"Not found key generator class {wish.text}"
  | generatorNotBuilt wish => s!"Not instancy key generator {wish.text}"
  | unknownGeneratorClass name => s!"Unknown key generator class {name}"
  | noDefaultConstructor name => s!"Key generator class {name} has no default constructor"
  | unknownCacheComponent c => s!"Cache for unknown component {c.text}"
  | reported text => text

end ConfigError

namespace DeclarationError

def message : DeclarationError → String
  | grammar cause => "Decode error: " ++ cause.message
  | configuration cause => "Configuration error: " ++ cause.message

end DeclarationError

namespace DocumentError

/-- The heading of every report on a refused document. -/
def heading : String := "TOML parse error"

/-- What a report on a refused document says below its heading, where it says something definite. -/
def detail? : DocumentError → Option String
  | missingMember name => some s!"missing field \x60{name}\x60"
  | declaration cause => some cause.message
  | cacheWildcard text => some s!"expected \"*\" or a list of components, got \"{text}\""
  | malformed | wrongType => none

end DocumentError

namespace FileError

def message : FileError → String
  | missing => "No such file or directory (os error 2)"
  | notADirectory => "Not a directory (os error 20)"
  | isADirectory => "Is a directory (os error 21)"
  | nameTooLong => "File name too long (os error 36)"
  | nullCharacter => "file name contained an unexpected NUL byte"

end FileError

namespace Error

def message : Error → String
  | grammar cause => "Decode error: " ++ cause.message
  | configuration cause => "Configuration error: " ++ cause.message
  | notFound key => "No statement factory accepts key: " ++ key
  | file cause => "IO error: " ++ cause.message
  | document _ => "Schema error: " ++ DocumentError.heading

end Error

instance : MonadLift (Except GrammarError) (Except Error) :=
  ⟨Except.mapError Error.grammar⟩

instance : MonadLift (Except ConfigError) (Except Error) :=
  ⟨Except.mapError Error.configuration⟩

instance : MonadLift (Except FileError) (Except Error) :=
  ⟨Except.mapError Error.file⟩

instance : MonadLift (Except DocumentError) (Except Error) :=
  ⟨Except.mapError Error.document⟩

instance : MonadLift (Except GrammarError) (Except DeclarationError) :=
  ⟨Except.mapError DeclarationError.grammar⟩

instance : MonadLift (Except ConfigError) (Except DeclarationError) :=
  ⟨Except.mapError DeclarationError.configuration⟩

instance : MonadLift (Except DeclarationError) (Except DocumentError) :=
  ⟨Except.mapError DocumentError.declaration⟩

/-- The error that a declaration error amounts to. -/
def DeclarationError.toError : DeclarationError → Error
  | grammar cause => .grammar cause
  | configuration cause => .configuration cause

instance : MonadLift (Except DeclarationError) (Except Error) :=
  ⟨Except.mapError DeclarationError.toError⟩

end KeyedSql
