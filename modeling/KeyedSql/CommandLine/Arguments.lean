import KeyedSql.Project.Basic
import KeyedSql.Report

/-!
# Arguments

```text
compsql [options] (compile KEY | links COMPONENT | nls COMPONENT | init [--force])
compsql --version
options: -v, --verbose · -c, --config FILE · -f, --format (text | json)
```

Options may stand before the command and behind it. Each may be given once on either side, and the
one behind the command counts. The value of an option is the next argument, or follows in the same
argument: `--format=json`, `-f=json`, `-fjson`. Short options without a value may be bundled.
Behind `--`, which is for the arguments of a command alone, nothing is an option.

Arguments are read from left to right, and the first fault ends the reading. So does `--version`,
before the command.
-/

namespace KeyedSql

/-- What is asked of the program. -/
inductive Task where
  | compile (key : String)
  | links (component : String)
  | nls (component : String)
  | init (force : Bool)
  deriving DecidableEq

/-- The task with the options that concern it. -/
structure Invocation where
  config : String
  form : ReportForm
  task : Task
  deriving DecidableEq

/-- Why the reading of arguments ends before a task is known. -/
inductive Halt where
  /-- The arguments are none that the program takes. -/
  | misuse
  /-- The version of the program is asked for. -/
  | version
  deriving DecidableEq, Repr

/-- The options on one side of the command. -/
structure Options where
  verbose : Bool
  config : Option String
  form : Option ReportForm
  force : Bool

/-- An option of the program. -/
inductive OptionName where
  | verbose
  | config
  | format
  | force
  | version
  deriving DecidableEq

namespace OptionName

/-- The name behind two dashes. -/
def long : OptionName → String
  | verbose => "verbose"
  | config => "config"
  | format => "format"
  | force => "force"
  | version => "version"

/-- The letter behind one dash. -/
def letter? : OptionName → Option Char
  | verbose => some 'v'
  | config => some 'c'
  | format => some 'f'
  | version => some 'V'
  | force => none

/-- Whether the option takes a value. -/
def takesValue : OptionName → Bool
  | config | format => true
  | verbose | force | version => false

/-- The options that may stand on either side of the command. -/
def shared : List OptionName :=
  [verbose, config, format]

/-- The options before the command. -/
def before : List OptionName :=
  version :: shared

/-- The options behind a command. -/
def behind (command : String) : List OptionName :=
  if command = "init" then force :: shared else shared

/-- The one of some options that has a long name. -/
def ofLong (known : List OptionName) (name : String) : Except Halt OptionName :=
  match known.find? (·.long == name) with
  | some option => .ok option
  | none => .error .misuse

/-- The one of some options that has a letter. -/
def ofLetter (known : List OptionName) (c : Char) : Except Halt OptionName :=
  match known.find? (·.letter? == some c) with
  | some option => .ok option
  | none => .error .misuse

end OptionName

namespace Options

/-- No option given. -/
def empty : Options :=
  { verbose := false, config := none, form := none, force := false }

/-- Gives an option without a value, once. -/
def setFlag (o : Options) : OptionName → Except Halt Options
  | .verbose => if o.verbose then .error .misuse else .ok { o with verbose := true }
  | .force => if o.force then .error .misuse else .ok { o with force := true }
  | .version => .error .version
  | .config | .format => .error .misuse

/-- Gives an option with a value, once. -/
def setValue (o : Options) (name : OptionName) (value : String) : Except Halt Options :=
  match name with
  | .config =>
    if o.config.isSome ∨ value = "" then .error .misuse else .ok { o with config := some value }
  | .format =>
    if o.form.isSome then .error .misuse
    else if value = "text" then .ok { o with form := some .text }
    else if value = "json" then .ok { o with form := some .json }
    else .error .misuse
  | .verbose | .force | .version => .error .misuse

/-- The options on both sides of the command; the inner side counts. -/
def within (outer inner : Options) : Options :=
  { verbose := outer.verbose || inner.verbose
    config := inner.config.or outer.config
    form := inner.form.or outer.form
    force := inner.force }

end Options

namespace CommandLine

/-- Whether an argument is an option and no value: more than a dash that begins with one. -/
def isOption (arg : String) : Bool :=
  match arg.toList with
  | '-' :: _ :: _ => true
  | _ => false

/-- Reads bundled letters, the last of which may take a value from the rest of the argument or from
the next one. -/
def readLetters (known : List OptionName) (o : Options) :
    List Char → Except Halt (Options × Option OptionName)
  | [] => .ok (o, none)
  | c :: cs => do
    let name ← OptionName.ofLetter known c
    if name.takesValue then
      match cs with
      | [] => return (o, some name)
      | '=' :: value => return (← o.setValue name (String.ofList value), none)
      | value => return (← o.setValue name (String.ofList value), none)
    else readLetters known (← o.setFlag name) cs

/-- Reads an argument that is an option. -/
def readOption (known : List OptionName) (o : Options) (arg : String) :
    Except Halt (Options × Option OptionName) :=
  match Text.after? ['-', '-'] arg.toList with
  | some long =>
    match Text.cut '=' (String.ofList long) with
    | some (name, value) => do
      return (← o.setValue (← OptionName.ofLong known name) value, none)
    | none => do
      let name ← OptionName.ofLong known (String.ofList long)
      if name.takesValue then return (o, some name) else return (← o.setFlag name, none)
  | none => readLetters known o (arg.toList.drop 1)

/-- Reads the options before the command, and gives them with the command and what follows it.
`needs` is an option that waits for its value. -/
def readBefore (o : Options) (needs : Option OptionName) :
    List String → Except Halt (Options × String × List String)
  | [] => .error .misuse
  | arg :: args =>
    match needs with
    | some name =>
      if isOption arg then .error .misuse
      else do readBefore (← o.setValue name arg) none args
    | none =>
      if arg = "--" then .error .misuse
      else if isOption arg then do
        let (o, needs) ← readOption OptionName.before o arg
        readBefore o needs args
      else .ok (o, arg, args)

/-- Reads the options behind a command, and gives them with the other arguments. `needs` is an
option that waits for its value. -/
def readBehind (known : List OptionName) (o : Options) (needs : Option OptionName) :
    List String → Except Halt (Options × List String)
  | [] => if needs.isSome then .error .misuse else .ok (o, [])
  | arg :: args =>
    match needs with
    | some name =>
      if isOption arg then .error .misuse
      else do readBehind known (← o.setValue name arg) none args
    | none =>
      if arg = "--" then .ok (o, args)
      else if isOption arg then do
        let (o, needs) ← readOption known o arg
        readBehind known o needs args
      else do
        let (o, others) ← readBehind known o none args
        return (o, arg :: others)

/-- The task of a command with its arguments. -/
def taskOf (command : String) (force : Bool) (args : List String) : Except Halt Task :=
  match command, args with
  | "compile", [key] => .ok (.compile key)
  | "links", [component] => .ok (.links component)
  | "nls", [component] => .ok (.nls component)
  | "init", [] => .ok (.init force)
  | _, _ => .error .misuse

/-- Reads the arguments of the program. -/
def parse (args : List String) : Except Halt Invocation := do
  let (outer, command, rest) ← readBefore Options.empty none args
  let (inner, others) ← readBehind (OptionName.behind command) Options.empty none rest
  let options := outer.within inner
  let task ← taskOf command inner.force others
  return {
    config := options.config.getD Config.defaultPath
    form := options.form.getD .text
    task }

end CommandLine

end KeyedSql
