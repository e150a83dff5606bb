import OnboardStorage.Text.Control

/-!
# Arguments of the tool

The arguments name one task, with options before and after its name.  They are
read from left to right, and the first that is not understood decides the
answer; so does a request for help or for the version.  Only the value of an
option that stands in an argument of its own is looked at later: when the next
option is read, or at the end.

The options for the configuration and the log level may stand on either side
of the task, once on each; what follows the task wins.
-/

namespace OnboardStorage.CommandLine

/-- Options of the tool and its tasks. -/
inductive Flag where
  | config
  | logLevel
  | output
  | script
  | restore
  | save
  | help
  | version
  deriving DecidableEq, Repr

namespace Flag

/-- Name of the option behind two dashes. -/
def long : Flag → String
  | .config => "config"
  | .logLevel => "log-level"
  | .output => "output"
  | .script => "script"
  | .restore => "restore"
  | .save => "save"
  | .help => "help"
  | .version => "version"

/-- Letter of the option behind one dash, if it has one. -/
def short? : Flag → Option Char
  | .config => some 'c'
  | .output => some 'o'
  | .script => some 's'
  | .help => some 'h'
  | .version => some 'V'
  | .logLevel | .restore | .save => none

/-- Whether a value belongs to the option. -/
def takesValue : Flag → Bool
  | .help | .version => false
  | _ => true

/-- Whether the value may be empty; a path may not. -/
def allowsEmpty : Flag → Bool
  | .logLevel => true
  | _ => false

end Flag

/-- Why the arguments name no task to carry out. -/
inductive Interruption where
  | help
  | version
  | unknownTask (name : String)
  | unknownArgument (argument : String)
  | missingValue (flag : Flag)
  | unexpectedValue (flag : Flag) (value : String)
  | emptyValue (flag : Flag)
  | repeated (flag : Flag)
  | missingTask
  | missingOption (flag : Flag)
  deriving DecidableEq, Repr

/-- Wording of the interruption.  What it repeats of the arguments has nothing in
it that a terminal obeys. -/
def Interruption.message : Interruption → String
  | .help => "help requested"
  | .version => "version requested"
  | .unknownTask name => s!"unrecognized subcommand '{Text.withoutControls name}'"
  | .unknownArgument argument =>
      s!"unexpected argument '{Text.withoutControls argument}' found"
  | .missingValue flag => s!"a value is required for '--{flag.long}'"
  | .unexpectedValue flag value =>
      s!"unexpected value '{Text.withoutControls value}' for '--{flag.long}' found; " ++
        "no more were expected"
  | .emptyValue flag => s!"the value of '--{flag.long}' is empty"
  | .repeated flag => s!"'--{flag.long}' is given more than once"
  | .missingTask => "a task is required"
  | .missingOption flag => s!"'--{flag.long}' is required"

/-- Values by option, as given. -/
abbrev Given :=
  List (Flag × String)

/-! ## One option -/

/-- Add the value of an option. -/
def Given.add (given : Given) (flag : Flag) (value : String) :
    Except Interruption Given :=
  if given.any fun other => other.1 = flag then .error (.repeated flag)
  else if value.isEmpty && !flag.allowsEmpty then .error (.emptyValue flag)
  else .ok (given ++ [(flag, value)])

/-- Whether an argument is an option.  A dash alone is not. -/
def isOption (argument : String) : Bool :=
  argument.startsWith "-" && argument ≠ "-"

/-- The name of an option written with two dashes and the value that an equals
sign attaches to it. -/
def splitLong (body : List Char) : String × Option String :=
  let name := body.takeWhile fun char => char ≠ '='
  match body.dropWhile fun char => char ≠ '=' with
  | [] => (String.ofList name, none)
  | _ :: value => (String.ofList name, some (String.ofList value))

/-- The value attached to an option of one letter. -/
def attachedToShort : List Char → Option String
  | [] => none
  | '=' :: value => some (String.ofList value)
  | value => some (String.ofList value)

/-- The option that an argument names, among those known, and the value
attached to it.  An option of one letter that takes no value hides whatever is
attached. -/
def recognize (known : List Flag) (argument : String) :
    Except Interruption (Flag × Option String) :=
  match argument.toList with
  | '-' :: '-' :: body =>
      let (name, attached) := splitLong body
      match known.find? fun flag => flag.long = name with
      | some flag => .ok (flag, attached)
      | none => .error (.unknownArgument ("--" ++ name))
  | '-' :: letter :: body =>
      match known.find? fun flag => flag.short? = some letter with
      | some flag =>
          .ok (flag, if flag.takesValue then attachedToShort body else none)
      | none => .error (.unknownArgument (String.ofList ['-', letter]))
  | _ => .error (.unknownArgument argument)

/-- What an option without a value asks for. -/
def Flag.interruption : Flag → Interruption
  | .version => .version
  | _ => .help

/-! ## All options of a level -/

/-- Options read so far.  The value of the last one stays open for a while: it
may still be to come, and what is wrong with it is noticed last. -/
structure Reading where
  given : Given
  /-- The last option, if its value stands or is to stand in the next argument. -/
  pending : Option (Flag × Option String)
  deriving DecidableEq, Repr

namespace Reading

/-- Nothing read. -/
def start : Reading :=
  ⟨[], none⟩

/-- The options with the last one among them. -/
def settle (reading : Reading) : Except Interruption Given :=
  match reading.pending with
  | none => .ok reading.given
  | some (flag, none) => .error (.missingValue flag)
  | some (flag, some value) => reading.given.add flag value

/-- Read an option that was recognized. -/
def option (reading : Reading) (flag : Flag) (attached : Option String) :
    Except Interruption Reading :=
  match flag.takesValue, attached with
  | false, some value => .error (.unexpectedValue flag value)
  | false, none => do
      let _ ← reading.settle
      .error flag.interruption
  | true, none => return ⟨← reading.settle, some (flag, none)⟩
  | true, some value => return ⟨← (← reading.settle).add flag value, none⟩

end Reading

/-- Read options up to the first argument that is neither an option nor the
value of one; answers them, and that argument with all after it.  After two
dashes nothing else is understood, and `stray` tells why. -/
def readOptions (known : List Flag) (stray : String → Interruption) :
    Reading → List String → Except Interruption (Reading × List String)
  | reading, [] => .ok (reading, [])
  | reading, argument :: rest =>
      if argument = "--" then
        match rest with
        | [] => .ok (reading, [])
        | next :: _ => .error (stray next)
      else if isOption argument then do
        let (flag, attached) ← recognize known argument
        readOptions known stray (← reading.option flag attached) rest
      else match reading.pending with
        | some (flag, none) =>
            readOptions known stray
              { reading with pending := some (flag, some argument) } rest
        | _ => .ok (reading, argument :: rest)

/-! ## Tasks -/

/-- Kinds of task. -/
inductive TaskKind where
  | generate
  | validate
  | run
  deriving DecidableEq, Repr

namespace TaskKind

/-- Every kind of task. -/
def all : List TaskKind :=
  [.generate, .validate, .run]

/-- Name of the task among the arguments. -/
def name : TaskKind → String
  | .generate => "gen-config"
  | .validate => "validate"
  | .run => "run"

/-- Options that may follow the name. -/
def flags : TaskKind → List Flag
  | .generate => [.output, .config, .logLevel, .help]
  | .validate => [.config, .logLevel, .help]
  | .run => [.script, .restore, .save, .config, .logLevel, .help]

end TaskKind

/-- What the tool is asked to do. -/
inductive Task where
  /-- Write an example configuration to a path. -/
  | generate (output : String)
  /-- Check a configuration. -/
  | validate
  /-- Replay a script, between two snapshots. -/
  | run (script : String) (restore save : Option String)
  deriving DecidableEq, Repr

/-- A task with the options that every task has. -/
structure Invocation where
  config : Option String
  logLevel : Option String
  task : Task
  deriving DecidableEq, Repr

/-- Where an example configuration is written if no path is given. -/
def standardExamplePath : String :=
  "storage.toml"

/-- The task of a kind with its options. -/
def TaskKind.withOptions (kind : TaskKind) (given : Given) :
    Except Interruption Task :=
  match kind with
  | .generate => .ok (.generate ((given.lookup .output).getD standardExamplePath))
  | .validate => .ok .validate
  | .run =>
      match given.lookup .script with
      | some script => .ok (.run script (given.lookup .restore) (given.lookup .save))
      | none => .error (.missingOption .script)

/-- Answer a request for help, on the tool or on one task.  Help is a topic of
its own, and no topic has parts. -/
def helpOn : List String → Interruption
  | [] => .help
  | topic :: rest =>
      if topic ≠ "help" && TaskKind.all.all fun kind => kind.name ≠ topic then
        .unknownTask topic
      else match rest with
        | [] => .help
        | part :: _ => .unknownTask part

/-- Read arguments.  What is wrong with the last option in front of the task is
noticed after all that follows the task. -/
def parse (arguments : List String) : Except Interruption Invocation := do
  let (reading, rest) ←
    readOptions [.config, .logLevel, .help, .version] .unknownTask .start arguments
  match rest with
  | [] => do
      let _ ← reading.settle
      .error .missingTask
  | name :: rest =>
      if name = "help" then .error (helpOn rest)
      else match TaskKind.all.find? fun kind => kind.name = name with
        | none => .error (.unknownTask name)
        | some kind =>
            let (inner, rest) ← readOptions kind.flags .unknownArgument .start rest
            match rest with
            | extra :: _ => .error (.unknownArgument extra)
            | [] =>
                let given ← inner.settle
                let task ← kind.withOptions given
                let general ← reading.settle
                return {
                  config := (given.lookup .config).or (general.lookup .config)
                  logLevel := (given.lookup .logLevel).or (general.lookup .logLevel)
                  task }

end OnboardStorage.CommandLine
