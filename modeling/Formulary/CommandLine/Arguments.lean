import Formulary.Settings.Conversion

/-!
# Arguments — what the program is asked to do

The program takes options, then a command, then the options and the file of that command. The
options on logging may stand on either side of the command, and those behind it count. A value stands
behind its option, or behind an equals sign in the same argument. A value is read when the next
argument is taken up, so that of two faults the one that is met first is told.

* `Invocation` — a command with its file and options.
* `UsageError` — why arguments are not understood, or that help or the version was asked for.
* `Invocation.parse` — from arguments to an invocation.
-/

namespace Formulary.CommandLine

/-- Why there is no invocation. -/
inductive UsageError where
  | help
  | version
  /-- Nothing was asked for at all. -/
  | helpInstead
  | missingCommand
  | unknownCommand
  | unknownArgument
  | missingArgument
  /-- A value is missing or empty. -/
  | noValue
  /-- A value does not fit. -/
  | badValue
  | repeated
  /-- A value stands behind an option that takes none. -/
  | needlessValue
deriving DecidableEq, Repr, Inhabited

/-- The name of the kind of an error. -/
def UsageError.name : UsageError → String
  | help => "DisplayHelp"
  | version => "DisplayVersion"
  | helpInstead => "DisplayHelpOnMissingArgumentOrSubcommand"
  | missingCommand => "MissingSubcommand"
  | unknownCommand => "InvalidSubcommand"
  | unknownArgument => "UnknownArgument"
  | missingArgument => "MissingRequiredArgument"
  | noValue => "InvalidValue"
  | badValue => "ValueValidation"
  | repeated => "ArgumentConflict"
  | needlessValue => "TooManyValues"

/-- The commands. -/
inductive Command where
  | segments
  | toc
  | render
deriving DecidableEq, Repr, Inhabited

namespace Command

/-- All commands. -/
def all : List Command := [segments, toc, render]

/-- The name of a command. -/
def name : Command → String
  | segments => "segments"
  | toc => "toc"
  | render => "render"

/-- The command of a name. -/
def ofName? (s : String) : Option Command := all.find? fun c => c.name == s

end Command

/-- A command with its file and options. -/
structure Invocation where
  command : Command
  file : String
  json : Bool := false
  output : Option String := none
  timeout : Nat := 60
  configFile : Option String := none
  wishes : Wishes := {}
deriving Repr

/-! ## Options -/

/-- What an option's value is read as. -/
inductive ValueKind where
  /-- Any text that is not empty. -/
  | path
  | text
  | count
  | single
  | switch
deriving DecidableEq, Repr

/-- A value as it was read. -/
inductive OptionValue where
  | text (s : String)
  | count (n : Nat)
  | single (x : Binary32)
  | switch (b : Bool)
deriving Repr, Inhabited

/-- The words that switch something on or off. -/
def switchWord? (s : String) : Option Bool :=
  let word := Settings.lower s
  if ["y", "yes", "t", "true", "on", "1"].contains word then some true
  else if ["n", "no", "f", "false", "off", "0"].contains word then some false
  else none

/-- Reads a value. -/
def ValueKind.read (kind : ValueKind) (s : String) : Except UsageError OptionValue :=
  let fit (v : Option OptionValue) : Except UsageError OptionValue := v.elim (.error .badValue) .ok
  match kind with
  | .path => if s.isEmpty then .error .noValue else .ok (.text s)
  | .text => .ok (.text s)
  | .count => fit ((Text.decimalBelow? UInt64.size s.toList).map .count)
  | .single => fit ((Binary32.parse? s).map .single)
  | .switch => fit ((switchWord? s).map .switch)

/-- The options with a value on either side of the command. -/
def loggingOptions : List (String × ValueKind) := [("log-level", .text), ("log-json", .switch)]

/-- The options with a value before the command. -/
def programOptions : List (String × ValueKind) := ("config-file", .path) :: loggingOptions

/-- The options with a value behind a command. -/
def commandOptions : Command → List (String × ValueKind)
  | .render =>
    [("font-size", .single), ("text-color", .text), ("remote-concurrency", .count),
      ("math-concurrency", .count), ("math-cli-path", .path), ("math-cache-dir", .path),
      ("resources-dir", .path), ("output", .path), ("timeout-seconds", .count)] ++ loggingOptions
  | _ => loggingOptions

/-! ## Reading -/

/-- The part of the arguments that is read: before a command, or behind it. -/
abbrev Scope := Option Command

/-- The options with a value in a scope. -/
def Scope.options : Scope → List (String × ValueKind)
  | none => programOptions
  | some c => commandOptions c

/-- What was read in a scope. -/
structure Reading where
  values : List (String × OptionValue) := []
  json : Bool := false
  file : Option String := none
  /-- An option whose value is not read yet, and the value if it is there. -/
  pending : Option (String × ValueKind × Option String) := none
  /-- Whether only files may follow. -/
  filesOnly : Bool := false
deriving Inhabited

namespace Reading

/-- Keeps the value of an option, which may be given once. -/
def keep (r : Reading) (name : String) (kind : ValueKind) (value : String) :
    Except UsageError Reading :=
  if (r.values.lookup name).isSome then .error .repeated
  else (kind.read value).map fun v => { r with values := (name, v) :: r.values }

/-- Reads the value of the option that waits for it. -/
def resolve (r : Reading) : Except UsageError Reading :=
  match r.pending with
  | none => .ok r
  | some (_, _, none) => .error .noValue
  | some (name, kind, some value) => { r with pending := none }.keep name kind value

/-- Whether the next argument may be the value of an option. -/
def awaitsValue (r : Reading) : Bool :=
  match r.pending with
  | some (_, _, none) => !r.filesOnly
  | _ => false

/-- Reads a flag that asks for help or the version, or that may be given once. -/
def flag (r : Reading) (scope : Scope) (name : String) : Except UsageError Reading := do
  let r ← r.resolve
  match name, scope with
  | "help", _ => .error .help
  | "version", _ => .error .version
  | _, _ => if r.json then .error .repeated else .ok { r with json := true }

/-- The flags of a scope. -/
def flags : Scope → List String
  | none => ["help", "version"]
  | some _ => ["help", "json"]

/-- Reads an option by its long name, with what stands behind an equals sign. -/
def long (r : Reading) (scope : Scope) (name : String) (value : Option String) :
    Except UsageError Reading :=
  match scope.options.lookup name with
  | some kind => do
    let r ← r.resolve
    match value with
    | some value => r.keep name kind value
    | none => .ok { r with pending := some (name, kind, none) }
  | none =>
    if (flags scope).contains name then
      match value with
      | some _ => .error .needlessValue
      | none => r.flag scope name
    else .error .unknownArgument

/-- Reads options by their letters, of which there are two. -/
def short (r : Reading) (scope : Scope) : List Char → Except UsageError Reading
  | 'h' :: _ => r.flag scope "help"
  | 'V' :: _ => if scope.isNone then r.flag scope "version" else .error .unknownArgument
  | _ => .error .unknownArgument

/-- Reads an argument that is no option: the file of a command, of which there is one. -/
def word (r : Reading) (scope : Scope) (argument : String) : Except UsageError Reading :=
  match scope with
  | none =>
    if r.filesOnly && (argument == "help" || (Command.ofName? argument).isSome) then
      .error .unknownArgument
    else .error .unknownCommand
  | some _ =>
    match r.file with
    | some _ => .error .unknownArgument
    | none => do
      let r ← r.resolve
      .ok { r with pending := some ("file", .path, some argument), file := some argument }

/-- Reads one argument. -/
def argument (r : Reading) (scope : Scope) (s : String) : Except UsageError Reading :=
  if r.filesOnly then r.word scope s
  else
    match s.toList with
    | ['-', '-'] => .ok { r with filesOnly := true }
    | '-' :: '-' :: rest =>
      match Text.splitOnce '=' rest with
      | some (name, value) => r.long scope (String.ofList name) (some (String.ofList value))
      | none => r.long scope (String.ofList rest) none
    | '-' :: c :: rest => r.short scope (c :: rest)
    | _ =>
      match r.pending with
      | some (name, kind, none) => .ok { r with pending := some (name, kind, some s) }
      | _ => r.word scope s

/-- Reads the arguments behind a command. -/
def behind (command : Command) (r : Reading) : List String → Except UsageError Reading
  | [] => r.resolve
  | s :: rest => do behind command (← r.argument (some command) s) rest

/-- What is asked for by `help` and the names behind it. -/
def helpFor : List String → UsageError
  | [] => .help
  | name :: rest =>
    if name = "help" ∨ (Command.ofName? name).isSome then
      if rest.isEmpty then .help else .unknownCommand
    else .unknownCommand

/-- Reads the arguments before a command, and what is behind it. -/
def before (r : Reading) : List String → Except UsageError (Reading × Option (Command × Reading))
  | [] => do return (← r.resolve, none)
  | s :: rest =>
    if r.awaitsValue || r.filesOnly then do before (← r.argument none s) rest
    else if s = "help" then .error (helpFor rest)
    else
      match Command.ofName? s with
      | some command => do
        let inner ← behind command {} rest
        if inner.file.isNone then .error .missingArgument
        return (← r.resolve, some (command, inner))
      | none => do before (← r.argument none s) rest

end Reading

/-! ## Invocations -/

/-- The variable that names a configuration file when no option does. -/
def configVariable : String := "MATHMARK_CONFIG_FILE"

/-- The text of an option. -/
def textOf? (values : List (String × OptionValue)) (name : String) : Option String :=
  match values.lookup name with
  | some (.text s) => some s
  | _ => none

/-- The count of an option. -/
def countOf? (values : List (String × OptionValue)) (name : String) : Option Nat :=
  match values.lookup name with
  | some (.count n) => some n
  | _ => none

/-- The single number of an option. -/
def singleOf? (values : List (String × OptionValue)) (name : String) : Option Binary32 :=
  match values.lookup name with
  | some (.single x) => some x
  | _ => none

/-- The switch of an option. -/
def switchOf? (values : List (String × OptionValue)) (name : String) : Option Bool :=
  match values.lookup name with
  | some (.switch b) => some b
  | _ => none

/-- The wishes of options. -/
def wishesOf (values : List (String × OptionValue)) : Wishes where
  level := textOf? values "log-level"
  json := switchOf? values "log-json"
  fontSize := singleOf? values "font-size"
  color := textOf? values "text-color"
  fetchBound := countOf? values "remote-concurrency"
  drawBound := countOf? values "math-concurrency"
  command := textOf? values "math-cli-path"
  mathDirectory := textOf? values "math-cache-dir"
  resources := textOf? values "resources-dir"

/-- The configuration file of the environment, which counts only if no option names one. -/
def configFile? (vars : List (String × String)) (values : List (String × OptionValue)) :
    Except UsageError (Option String) :=
  match textOf? values "config-file", vars.lookup configVariable with
  | some name, _ => .ok (some name)
  | none, none => .ok none
  | none, some name => if name.isEmpty then .error .noValue else .ok (some name)

/-- The invocation that arguments ask for, in an environment of variables. -/
def Invocation.parse (vars : List (String × String)) (arguments : List String) :
    Except UsageError Invocation := do
  let (outer, inner) ← Reading.before {} arguments
  let configFile ← configFile? vars outer.values
  match inner with
  | none =>
    if outer.values.isEmpty && configFile.isNone then .error .helpInstead else .error .missingCommand
  | some (command, inner) =>
    return {
      command, configFile
      file := inner.file.getD ""
      json := inner.json
      output := textOf? inner.values "output"
      timeout := (countOf? inner.values "timeout-seconds").getD 60
      wishes := (wishesOf inner.values).before (wishesOf outer.values) }

end Formulary.CommandLine
