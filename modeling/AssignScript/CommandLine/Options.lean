import AssignScript.Engine

/-!
# Command line options

Arguments are read from left to right. An option stands as `--name value`, `--name=value`, or with its
short name as `-n value`, `-nvalue` or `-n=value`; short names can share a hyphen. A value in an argument
of its own may not start with a hyphen, unless it is nothing else.

## Main definitions

* `Options`, `Command`: what the arguments ask for;
* `Command.ofArguments?`: the command of some arguments, if they are well formed.
-/

namespace AssignScript

/-- What a run is asked to do. -/
structure Options where
  /-- The script file to run. -/
  file : Option String := none
  /-- The script text to run. -/
  script : Option String := none
  /-- Bindings to make before, each a name, an equals sign and an expression; the last one first. -/
  settings : List String := []
  /-- How deeply expressions may nest, if given. -/
  limit : Option Nat := none
  /-- Whether more is to be logged. -/
  debug : Bool := false

/-- What the arguments ask for. -/
inductive Command where
  /-- A run. -/
  | run (options : Options)
  /-- The name and version of the program. -/
  | version
  /-- How the program is used. -/
  | help

/-- Options that take a value. -/
inductive ValueOption where
  /-- The script file. -/
  | file
  /-- The script text. -/
  | script
  /-- A binding. -/
  | setting
  /-- The limit on nesting. -/
  | limit

/-- Options that stand alone. -/
inductive Switch where
  /-- Log more. -/
  | debug
  /-- Show the version. -/
  | version
  /-- Show the help. -/
  | help

namespace Options

/-- The options with the value of one more. Only bindings can be given more than once, and a file needs
    a name. -/
def withValue? (o : Options) (option : ValueOption) (value : String) : Option Options :=
  match option with
  | .file => if o.file.isSome || value.isEmpty then none else some { o with file := some value }
  | .script => if o.script.isSome then none else some { o with script := some value }
  | .setting => some { o with settings := value :: o.settings }
  | .limit =>
    if o.limit.isSome then none
    else (Decimal.readUnsigned? value.toList).map fun n => { o with limit := some n }

/-- The run that options ask for, unless they name both a file and a text. -/
def command? (o : Options) : Option Command :=
  if o.file.isSome && o.script.isSome then none
  else some (.run { o with settings := o.settings.reverse })

end Options

/-! ### Names -/

/-- An option by its long name. -/
def longOption? : String → Option (ValueOption ⊕ Switch)
  | "file" => some (.inl .file)
  | "expr" => some (.inl .script)
  | "set" => some (.inl .setting)
  | "max-depth" => some (.inl .limit)
  | "debug" => some (.inr .debug)
  | "version" => some (.inr .version)
  | "help" => some (.inr .help)
  | _ => none

/-- An option by its short name. -/
def shortOption? : Char → Option (ValueOption ⊕ Switch)
  | 'f' => some (.inl .file)
  | 'e' => some (.inl .script)
  | 's' => some (.inl .setting)
  | 'd' => some (.inr .debug)
  | 'V' => some (.inr .version)
  | 'h' => some (.inr .help)
  | _ => none

/-! ### Arguments -/

/-- What some arguments are. -/
inductive Reading where
  /-- Options, with one that waits for its value in the next argument. -/
  | options (o : Options) (waiting : Option ValueOption)
  /-- A command that does not wait for the other arguments. -/
  | now (c : Command)

namespace Reading

/-- The options with a switch; being asked for the version or for help ends the reading. -/
def switch? (o : Options) : Switch → Option Reading
  | .debug => if o.debug then none else some (.options { o with debug := true } none)
  | .version => some (.now .version)
  | .help => some (.now .help)

/-- Reads an argument behind its two hyphens. -/
def long? (o : Options) (cs : List Char) : Option Reading := do
  let name := cs.takeWhile (· != '=')
  let value := if name.length < cs.length then some (String.ofList (cs.drop (name.length + 1))) else none
  match ← longOption? (String.ofList name), value with
  | .inl option, some value => return .options (← o.withValue? option value) none
  | .inl option, none => return .options o (some option)
  | .inr _, some _ => none
  | .inr s, none => switch? o s

/-- Reads an argument behind its only hyphen. -/
def short? (o : Options) : List Char → Option Reading
  | [] => some (.options o none)
  | c :: cs => do
    match ← shortOption? c with
    | .inl option =>
      match cs with
      | [] => return .options o (some option)
      | '=' :: value => return .options (← o.withValue? option (String.ofList value)) none
      | value => return .options (← o.withValue? option (String.ofList value)) none
    | .inr s =>
      match ← switch? o s with
      | .options o _ => short? o cs
      | .now c => return .now c

/-- Reads an argument. None stands by itself. -/
def argument? (o : Options) (arg : String) : Option Reading :=
  match arg.toList with
  | '-' :: '-' :: cs => long? o cs
  | ['-'] => none
  | '-' :: cs => short? o cs
  | _ => none

/-- Whether an argument can be the value of the option before it. -/
def isValue (arg : String) : Bool :=
  arg == "-" || !arg.startsWith "-"

end Reading

namespace Command

/-- The command of the arguments from an option on that may wait for its value. After two hyphens alone
    nothing may follow. -/
def ofRest? : Options → Option ValueOption → List String → Option Command
  | o, none, [] => o.command?
  | _, some _, [] => none
  | o, some option, arg :: args => do
    if Reading.isValue arg then ofRest? (← o.withValue? option arg) none args else none
  | o, none, arg :: args => do
    if arg == "--" then
      if args.isEmpty then o.command? else none
    else
      match ← Reading.argument? o arg with
      | .options o waiting => ofRest? o waiting args
      | .now c => return c

/-- The command of some arguments, if they are well formed. -/
def ofArguments? (args : List String) : Option Command :=
  ofRest? {} none args

end Command

end AssignScript
