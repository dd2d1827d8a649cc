import KeyedSql.CommandLine.Run

/-!
# The program

Runs a task on the files of the file system.
-/

namespace KeyedSql

/-- The file error that an error of the file system amounts to; its code may come with a minus
sign. -/
def fileError : IO.Error → FileError
  | .inappropriateType _ code _ =>
    if code = 20 ∨ code = -20 then .notADirectory else .isADirectory
  | .invalidArgument _ code _ =>
    if code = 36 ∨ code = -36 then .nameTooLong else .nullCharacter
  | _ => .missing

/-- Does something with a file, unless the file system refuses it. -/
def attempt {α : Type} (action : IO α) : IO (Except FileError α) := do
  try
    return .ok (← action)
  catch e =>
    return .error (fileError e)

/-- Reaches the files of the file system. -/
def systemAccess : FileAccess IO where
  exist path := do
    match ← attempt (IO.FS.readFile path) with
    | .ok _ | .error .isADirectory => return true
    | .error _ => return false
  read path := attempt (IO.FS.readFile path)
  write path content := attempt (IO.FS.writeFile path content)

end KeyedSql

open KeyedSql in
/-- Runs the program with the arguments that it is given. -/
def main (args : List String) : IO UInt32 := do
  let palette := if ← (← IO.getStdout).isTty then Palette.colored else Palette.plain
  let outcome ← CommandLine.run palette systemAccess args
  (← IO.getStdout).putStr outcome.output
  if let some error := outcome.error then
    IO.eprintln ("Error: " ++ error)
  return outcome.exitCode
