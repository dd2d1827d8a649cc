import KeyedSql.Error
import KeyedSql.Text.Split

/-!
# Files

How a project reaches its files. `FileAccess` is what it needs: to see whether something is there,
to read and to write. `Files` is a tree of files held as data, and `Files.access` reaches into it;
its directories are there exactly where files are in them. A path has a slash between two steps. It
may lead out of the tree, where there are directories and nothing in them.
-/

namespace KeyedSql

/-- How files are reached by their paths. -/
structure FileAccess (m : Type → Type) where
  exist : String → m Bool
  read : String → m (Except FileError String)
  write : String → String → m (Except FileError Unit)

/-- Files with the steps of their paths and their contents. -/
structure Files where
  entries : List (List String × String)

/-- Where a path leads to. -/
inductive Location where
  /-- Some steps down from the working directory. -/
  | within (steps : List String)
  /-- Outside of the tree. -/
  | outside

/-- What stands at a location. -/
inductive Place where
  | file (content : String)
  | directory
  | nothing

namespace Location

/-- The most bytes that the name of a file or a directory takes. -/
def longestName : Nat := 255

/-- The most bytes that a path takes. -/
def longestPath : Nat := 4095

/-- One step up. -/
def parent : Location → Location
  | within [] | outside => outside
  | within (step :: steps) => within (step :: steps).dropLast

/-- One step down. -/
def child (name : String) : Location → Except FileError Location
  | within steps =>
    if longestName < name.utf8ByteSize then .error .nameTooLong else .ok (within (steps ++ [name]))
  | outside => .error (if longestName < name.utf8ByteSize then .nameTooLong else .missing)

/-- Where a path begins, and its steps from there. -/
def start (path : String) : Except FileError (Location × List String) :=
  if path.contains (Char.ofNat 0) then .error .nullCharacter
  else if path = "" then .error .missing
  else if longestPath < path.utf8ByteSize then .error .nameTooLong
  else .ok (if path.startsWith "/" then outside else within [], Text.split '/' path)

end Location

namespace Files

/-- Files of the given names, in which idle steps do not count. -/
def ofList (files : List (String × String)) : Files :=
  ⟨files.map fun f => ((Text.split '/' f.1).filter fun step => step ≠ "" ∧ step ≠ ".", f.2)⟩

/-- What stands at a location. -/
def place (files : Files) : Location → Place
  | .outside => .directory
  | .within steps =>
    match files.entries.lookup steps with
    | some content => .file content
    | none =>
      if steps.isEmpty || files.entries.any fun e => steps.isPrefixOf e.1 then .directory
      else .nothing

/-- Where the steps of a path lead to, from a place that must be a directory if there is any
step. -/
def follow (files : Files) (reached : Location) : List String → Except FileError Location
  | [] => .ok reached
  | step :: steps =>
    match files.place reached with
    | .file _ => .error .notADirectory
    | .nothing => .error .missing
    | .directory =>
      if step = "" ∨ step = "." then files.follow reached steps
      else if step = ".." then files.follow reached.parent steps
      else do files.follow (← reached.child step) steps

/-- The location that a path names. -/
def locate (files : Files) (path : String) : Except FileError Location := do
  let (start, steps) ← Location.start path
  files.follow start steps

/-- The location that a path names for a file that may be new; what comes before its last step must
be there. -/
def locateFile (files : Files) (path : String) : Except FileError Location := do
  let (start, steps) ← Location.start path
  if steps.getLast? = some "" then
    let above := ((steps.reverse.dropWhile (· = "")).drop 1).reverse
    let _ ← files.follow start (above ++ [""])
    throw .isADirectory
  files.follow start steps

/-- Whether there is something at a path. -/
def exist (files : Files) (path : String) : Bool :=
  match files.locate path with
  | .error _ => false
  | .ok location =>
    match files.place location with
    | .nothing => false
    | _ => true

/-- The content of a file. -/
def read (files : Files) (path : String) : Except FileError String := do
  match files.place (← files.locate path) with
  | .file content => return content
  | .directory => throw .isADirectory
  | .nothing => throw .missing

/-- Writes a file into a directory that is there. -/
def write (files : Files) (path content : String) : Except FileError Files := do
  let location ← files.locateFile path
  match location, files.place location with
  | .outside, _ | _, .directory => throw .isADirectory
  | .within steps, _ => return ⟨(steps, content) :: files.entries.filter (·.1 ≠ steps)⟩

/-- Reaches the files of a tree. -/
def access : FileAccess (StateM Files) where
  exist path := return (← get).exist path
  read path := return (← get).read path
  write path content := do
    match (← get).write path content with
    | .ok files =>
      set files
      return .ok ()
    | .error e => return .error e

end Files

namespace FilePath

/-- The characters of a path, last first, without slashes and idle steps at the end. -/
def dropIdle : List Char → List Char
  | '/' :: [] => ['/']
  | '/' :: cs => dropIdle cs
  | '.' :: '/' :: cs => dropIdle ('/' :: cs)
  | cs => cs
termination_by cs => cs.length

/-- The directory of a path; for a path of one step, the working directory. -/
def directory (path : String) : String :=
  let parent := dropIdle ((dropIdle path.toList.reverse).dropWhile (· ≠ '/'))
  if parent.isEmpty then "." else String.ofList parent.reverse

/-- A path from a directory. -/
def join (directory path : String) : String :=
  if path.startsWith "/" then path
  else if directory.endsWith "/" then directory ++ path
  else directory ++ "/" ++ path

end FilePath

end KeyedSql
