import Stencil.Project

/-!
# The command line

Options may stand before or after the command.  An option with a value is settled when the next
option or the end is reached, so an argument that cannot be understood at all is reported before a
value that is missing or repeated.
-/

namespace Stencil.CommandLine

/-- Why arguments ask for no command. -/
inductive Usage where
  /-- An argument is not known. -/
  | unknownArgument
  /-- A word is no command. -/
  | invalidSubcommand
  /-- A value is missing or empty. -/
  | invalidValue
  /-- An option stands twice. -/
  | argumentConflict
  /-- An option without value has one. -/
  | tooManyValues
  /-- Help is asked for. -/
  | displayHelp
  /-- The version is asked for. -/
  | displayVersion
  deriving DecidableEq

/-- The exit code of a run that ends with its arguments. -/
def Usage.exitCode : Usage → Nat
  | .displayHelp => 0
  | .displayVersion => 0
  | _ => 2

/-- What the program is asked to do. -/
inductive Command where
  /-- Set up a project. -/
  | init (directory : Path)
  /-- Run the jobs of a configuration. -/
  | generate (options : Project.Options)

/-- The arguments that take a value. -/
inductive Key where
  /-- The configuration. -/
  | config
  /-- The output directory. -/
  | output
  /-- A pattern that names have to match. -/
  | including
  /-- A pattern that names must not match. -/
  | excluding
  /-- The directory of a new project, which is no option. -/
  | directory
  deriving DecidableEq

/-- The options without value. -/
inductive Switch where
  /-- Nothing is written. -/
  | dryRun
  /-- Show help. -/
  | help
  /-- Show the version. -/
  | version
  deriving DecidableEq

/-- An option. -/
inductive Flag where
  /-- An option with a value. -/
  | key (key : Key)
  /-- An option without value. -/
  | switch (switch : Switch)

/-- The commands by which arguments are read. -/
inductive Mode where
  /-- Before a command is named. -/
  | top
  /-- After the command that sets up a project. -/
  | init
  /-- After the command that runs jobs. -/
  | generate
  deriving DecidableEq

/-- The option with a long name. -/
def longFlag? (mode : Mode) (name : Text) : Option Flag :=
  match name.string with
  | "config" => some (.key .config)
  | "output" => some (.key .output)
  | "include" => some (.key .including)
  | "exclude" => some (.key .excluding)
  | "dry-run" => some (.switch .dryRun)
  | "help" => some (.switch .help)
  | "version" => if mode = .top then some (.switch .version) else none
  | _ => none

/-- The option with a short name. -/
def shortFlag? (mode : Mode) : Char → Option Flag
  | 'c' => some (.key .config)
  | 'o' => some (.key .output)
  | 'h' => some (.switch .help)
  | 'V' => if mode = .top then some (.switch .version) else none
  | _ => none

/-- The arguments of one command that are settled, and the one that is not. -/
structure Values where
  /-- The configuration. -/
  config : Option Text := none
  /-- The output directory. -/
  output : Option Text := none
  /-- Nothing is written. -/
  dryRun : Bool := false
  /-- Patterns that names have to match. -/
  including : List Text := []
  /-- Patterns that names must not match. -/
  excluding : List Text := []
  /-- The directory of a new project. -/
  directory : Option Text := none
  /-- An argument whose value is not settled; the value may be missing. -/
  pending : Option (Key × Option Text) := none

namespace Values

/-- A value that stands once and is not empty. -/
def once (old : Option Text) (value : Text) : Except Usage (Option Text) :=
  if old.isSome then .error .argumentConflict
  else if value.isEmpty then .error .invalidValue
  else .ok (some value)

/-- The values with one more. -/
def add (values : Values) (key : Key) (value : Text) : Except Usage Values := do
  match key with
  | .config => return { values with config := ← once values.config value }
  | .output => return { values with output := ← once values.output value }
  | .directory => return { values with directory := ← once values.directory value }
  | .including => return { values with including := values.including ++ [value] }
  | .excluding => return { values with excluding := values.excluding ++ [value] }

/-- The values with nothing left to settle. -/
def settle (values : Values) : Except Usage Values :=
  match values.pending with
  | none => .ok values
  | some (_, none) => .error .invalidValue
  | some (key, some value) => { values with pending := none }.add key value

/-- The values after an option without value. -/
def turnOn (values : Values) (switch : Switch) : Except Usage Values := do
  let values ← values.settle
  match switch with
  | .help => throw .displayHelp
  | .version => throw .displayVersion
  | .dryRun => if values.dryRun then throw .argumentConflict else return { values with dryRun := true }

/-- The values after an option with a value, which may be attached to it. -/
def give (values : Values) (key : Key) (attached : Option Text) : Except Usage Values := do
  let values ← values.settle
  match attached with
  | some value => values.add key value
  | none => return { values with pending := some (key, none) }

/-- An option waits for the next argument. -/
def isWaiting (values : Values) : Bool :=
  match values.pending with
  | some (_, none) => true
  | _ => false

end Values

/-- What stands after the option letters of a short argument: an attached value may start with an
equals sign. -/
def attachedValue? : Text → Option Text
  | [] => none
  | '=' :: value => some value
  | value => some value

/-- The option letters after a dash. -/
def readShort (mode : Mode) (values : Values) : Text → Except Usage Values
  | [] => .ok values
  | c :: rest =>
    match shortFlag? mode c with
    | none => .error .unknownArgument
    | some (.key key) => values.give key (attachedValue? rest)
    | some (.switch switch) => do readShort mode (← values.turnOn switch) rest

/-- The long option after two dashes, with a value after an equals sign. -/
def readLong (mode : Mode) (values : Values) (argument : Text) : Except Usage Values :=
  let (name, attached) := match argument.splitFirst? '=' with
    | some (name, value) => (name, some value)
    | none => (argument, none)
  match longFlag? mode name, attached with
  | none, _ => .error .unknownArgument
  | some (.key key), attached => values.give key attached
  | some (.switch _), some _ => .error .tooManyValues
  | some (.switch switch), none => values.turnOn switch

/-- The command with a name. -/
def commandMode? (name : Text) : Option Mode :=
  match name.string with
  | "init" => some .init
  | "generate" => some .generate
  | _ => none

/-- A word names a command, help included. -/
def isCommandName (word : Text) : Bool := (commandMode? word).isSome || word == "help".toList

/-- A request for help with some commands. -/
def helpUsage : List Text → Usage
  | [] => .displayHelp
  | [name] => if isCommandName name then .displayHelp else .invalidSubcommand
  | _ => .invalidSubcommand

/-- A word that is no option: a new project takes one as its directory. -/
def readWord (mode : Mode) (values : Values) (trailing : Bool) (word : Text) :
    Except Usage Values :=
  match mode with
  | .top =>
    .error (if trailing && isCommandName word then .unknownArgument else .invalidSubcommand)
  | .generate => .error .unknownArgument
  | .init =>
    let taken := values.directory.isSome || values.pending.any fun (key, _) => key == .directory
    if taken then .error .unknownArgument
    else do
      let values ← values.settle
      return { values with pending := some (.directory, some word) }

/-- The arguments of a command.  A command name ends those before it and is returned with what
follows it. -/
def readArguments (mode : Mode) :
    (trailing : Bool) → Values → List Text → Except Usage (Values × Option (Mode × List Text))
  | _, values, [] => .ok (values, none)
  | true, values, word :: rest => do
    readArguments mode true (← readWord mode values true word) rest
  | false, values, word :: rest =>
    let command := if mode = .top ∧ !values.isWaiting then commandMode? word else none
    match command, word with
    | some command, _ => .ok (values, some (command, rest))
    | none, ['-', '-'] => readArguments mode true values rest
    | none, '-' :: '-' :: argument => do
      readArguments mode false (← readLong mode values argument) rest
    | none, '-' :: c :: letters => do
      readArguments mode false (← readShort mode values (c :: letters)) rest
    | none, word =>
      match values.pending with
      | some (key, none) =>
        readArguments mode false { values with pending := some (key, some word) } rest
      | _ =>
        if mode = .top ∧ word = "help".toList then .error (helpUsage rest)
        else do readArguments mode false (← readWord mode values false word) rest

/-- A list after the command replaces one before it. -/
def later (before after : List Text) : List Text := if after.isEmpty then before else after

/-- The options of both sides of a command. -/
def optionsOf (before after : Values) : Project.Options where
  config := ((after.config.or before.config).map Path.mk).getD Project.configFile
  output := (after.output.or before.output).map Path.mk
  dryRun := before.dryRun || after.dryRun
  selection :=
    ⟨later before.including after.including, later before.excluding after.excluding⟩

/-- The command that arguments ask for; without a command name, jobs are run. -/
def read (arguments : List Text) : Except Usage Command := do
  let (before, command) ← readArguments .top false {} arguments
  match command with
  | none => return .generate (optionsOf (← before.settle) {})
  | some (mode, rest) =>
    let (after, _) ← readArguments mode false {} rest
    let after ← after.settle
    let before ← before.settle
    match mode with
    | .init => return .init (((after.directory.map Path.mk)).getD ⟨['.']⟩)
    | _ => return .generate (optionsOf before after)

/-- Run a command. -/
def Command.run {m : Type → Type} [Monad m] [Disk m] :
    Command → ExceptT Project.Fault m Unit
  | .init directory => Project.init directory
  | .generate options => Project.generate options

end Stencil.CommandLine
