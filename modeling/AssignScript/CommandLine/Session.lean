import AssignScript.CommandLine.Options
import AssignScript.Text.Quoted

/-!
# Running the command line

A run makes the bindings that it is asked for, runs a script and shows what all names are bound to.

## Main definitions

* `Outcome`: exit code and output of a run;
* `Failure`, `Failure.report`: why a run fails, and how that is shown;
* `runArguments`: the outcome of some arguments, given how files are read.
-/

namespace AssignScript

open Text

variable [PatternLibrary]

/-- What a run leaves behind. -/
structure Outcome where
  /-- The exit code. -/
  code : UInt32
  /-- What is written to the standard output. -/
  output : String
  /-- What is written to the error output. -/
  errors : String

/-- Why a run fails. -/
inductive Failure where
  /-- A binding without an equals sign. -/
  | invalidBinding (setting : String)
  /-- A binding whose expression fails. -/
  | invalidValue (name : String) (cause : ScriptError)
  /-- A script text that fails. -/
  | failedScript (cause : ScriptError)
  /-- A script file that fails. -/
  | failedFile (e : FileError)
  /-- Neither a file nor a text to run. -/
  | nothingToRun

namespace Failure

/-- What failed. -/
def message : Failure → String
  | .invalidBinding setting => s!"Invalid binding {quoted setting}, expected NAME=VALUE"
  | .invalidValue name _ => s!"Invalid value for {name}"
  | .failedScript _ => "Failed to evaluate script"
  | .failedFile e => e.message
  | .nothingToRun => "Either --file or --expr is required"

/-- Why it failed. -/
def cause? : Failure → Option String
  | .invalidValue _ e | .failedScript e => some e.message
  | .failedFile e => some e.cause
  | .invalidBinding _ | .nothingToRun => none

/-- The lines of a text, each moved to the right. -/
def indent (text : String) : String :=
  "\n".intercalate ((text.splitOn "\n").map ("    " ++ ·))

/-- How a failure is shown. -/
def report (f : Failure) : String :=
  "Error: " ++ f.message ++ "\n" ++
    match f.cause? with
    | some cause => "\nCaused by:\n" ++ indent cause ++ "\n"
    | none => ""

/-- The outcome of a run that fails. -/
def outcome (f : Failure) : Outcome := ⟨1, "", f.report⟩

end Failure

/-- The name and the expression of a binding. -/
def splitSetting? (setting : String) : Option (String × String) :=
  let cs := setting.toList
  let name := cs.takeWhile (· != '=')
  if name.length < cs.length then
    some (.ofList (trimBoth isBlank name), .ofList (cs.drop (name.length + 1)))
  else none

/-- Makes one binding. -/
def applySetting (e : Engine) (setting : String) : Except Failure Engine :=
  match splitSetting? setting with
  | none => .error (.invalidBinding setting)
  | some (name, text) =>
    match e.evaluate text with
    | .ok v => .ok (e.set name v)
    | .error cause => .error (.invalidValue name cause)

/-- One line for each name, with its type and its value. -/
def showBindings (b : Bindings) : String :=
  String.join <| b.entries.map fun (name, binding) =>
    s!"{name} : {binding.type.name} = {binding.value.describe}\n"

/-- The engine after a script text. -/
def runScript (e : Engine) (script : String) : Except Failure Engine :=
  match e.eval script with
  | (.ok (), e) => .ok e
  | (.error cause, _) => .error (.failedScript cause)

/-- The engine after a script file, given its content or the reason why it cannot be read. -/
def runScriptFile (e : Engine) (path : String) (content : Except String String) :
    Except Failure Engine :=
  match e.runFile path content with
  | (.ok (), e) => .ok e
  | (.error cause, _) => .error (.failedFile cause)

/-- The outcome of a run that leaves an engine or fails. -/
def outcomeOf : Except Failure Engine → Outcome
  | .ok e => ⟨0, showBindings e.bindings, ""⟩
  | .error f => f.outcome

/-- The outcome of a run. The file is read only once all bindings are made. -/
def Options.run {m : Type → Type} [Monad m] (readFile : String → m (Except String String))
    (o : Options) : m Outcome :=
  match o.settings.foldlM applySetting { limit := o.limit.getD defaultLimit } with
  | .error f => return f.outcome
  | .ok e =>
    match o.file, o.script with
    | some path, _ => return outcomeOf (runScriptFile e path (← readFile path))
    | none, some script => return outcomeOf (runScript e script)
    | none, none => return Failure.nothingToRun.outcome

/-- The name and version of the program. -/
def versionText : String := "vtlengine 0.1.0\n"

/-- How the program is used. -/
def helpText : String :=
  String.join <| List.map (· ++ "\n")
    ["Evaluate a script of `name := expression;` statements and print the results",
     "",
     "Usage: vtlengine [OPTIONS]",
     "",
     "Options:",
     "  -f, --file <FILE>            Script file to run",
     "  -e, --expr <EXPR>            Script text to run",
     "  -s, --set <NAME=VALUE>       Bind a variable before running, e.g. `--set limit=10` (repeatable)",
     "      --max-depth <MAX_DEPTH>  Maximum expression nesting depth [default: 256]",
     "  -d, --debug                  Enable debug logging",
     "  -h, --help                   Print help",
     "  -V, --version                Print version"]

/-- The outcome of some arguments, given how files are read. -/
def runArguments {m : Type → Type} [Monad m] (readFile : String → m (Except String String))
    (args : List String) : m Outcome :=
  match Command.ofArguments? args with
  | none => return ⟨2, "", ""⟩
  | some .version => return ⟨0, versionText, ""⟩
  | some .help => return ⟨0, helpText, ""⟩
  | some (.run o) => o.run readFile

end AssignScript
