import KeyedSql.CommandLine.Arguments
import KeyedSql.Compile.Factory
import KeyedSql.Links.Localized

/-!
# Running a task

`CommandLine.run` takes the arguments and a way to the files, and gives what the program prints,
what it reports as an error and its exit code.
-/

namespace KeyedSql.CommandLine

variable {m : Type → Type} [Monad m]

/-- What a run of the program comes to. -/
structure Outcome where
  exitCode : UInt32
  output : String
  /-- The error report; misused arguments have another kind of report. -/
  error : Option String

/-- The report on the components linked to one. -/
def reportLinks (env : Environment) (component : String) (palette : Palette) (form : ReportForm) :
    Except Error String := do
  let c ← ComponentType.parse component
  return Report.links c (← env.registry.reachable c) palette form

/-- The report on the localized columns of a component. -/
def reportLocalized (env : Environment) (component : String) (palette : Palette)
    (form : ReportForm) : Except Error String := do
  let c ← ComponentType.parse component
  let uses ← env.registry.reachesLocalized c
  return Report.localized c uses (← env.registry.localizedPropertyNames c) palette form

/-- The report on the statement of a key. -/
def reportStatement (env : Environment) (key : String) (palette : Palette) (form : ReportForm) :
    Except Error String := do
  let statement ← StatementFactory.dispatch StatementFactory.defaults env key
  return Report.statement statement palette form

/-- Carries out a task, and gives what it prints. -/
def perform (palette : Palette) (files : FileAccess m) (invocation : Invocation) :
    ExceptT ProjectError m String := do
  let report (make : Environment → Palette → ReportForm → Except Error String) := do
    let env ← Environment.load files invocation.config
    ProjectError.onProject (make env palette invocation.form)
  match invocation.task with
  | .compile key => report (reportStatement · key)
  | .links component => report (reportLinks · component)
  | .nls component => report (reportLocalized · component)
  | .init force =>
    Config.save files invocation.config Config.default force
    return "Created " ++ invocation.config ++ "\n"

/-- What the program says of itself. -/
def versionLine : String := "compsql 0.0.1\n"

/-- Runs the program. -/
def run (palette : Palette) (files : FileAccess m) (args : List String) : m Outcome := do
  match parse args with
  | .error .misuse => return { exitCode := 2, output := "", error := none }
  | .error .version => return { exitCode := 0, output := versionLine, error := none }
  | .ok invocation =>
    match ← (perform palette files invocation).run with
    | .ok output => return { exitCode := 0, output, error := none }
    | .error e => return { exitCode := 1, output := "", error := some e.message }

end KeyedSql.CommandLine
