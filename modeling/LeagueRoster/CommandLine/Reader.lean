import LeagueRoster.CommandLine
import LeagueRoster.Text.Numeral

/-!
Reading a command line. Arguments are taken from the left, and the first fault, or the first
wish for help or the version, ends the reading. A value that stands apart from its option, and
an argument without one, are checked only when the next argument is understood; where a command
begins, such a value in front of it waits until the command has been read.
-/
namespace LeagueRoster.CommandLine

inductive OptionName where
  | outputFormat
  | machine
  | plain
  | verbose
  | quiet
  | config
  | phase
  | viewerTeam
  | team
  | overCapFirst
  | help
  | version
  deriving Repr, DecidableEq

namespace OptionName

def all : List OptionName :=
  [outputFormat, machine, plain, verbose, quiet, config, phase, viewerTeam, team, overCapFirst,
    help, version]

def long : OptionName → String
  | outputFormat => "output-format"
  | machine => "machine"
  | plain => "plain"
  | verbose => "verbose"
  | quiet => "quiet"
  | config => "config"
  | phase => "phase"
  | viewerTeam => "viewer-team"
  | team => "team"
  | overCapFirst => "over-cap-first"
  | help => "help"
  | version => "version"

def short? : OptionName → Option Char
  | outputFormat => some 'O'
  | machine => some 'm'
  | verbose => some 'v'
  | quiet => some 'q'
  | team => some 't'
  | help => some 'h'
  | version => some 'V'
  | _ => none

def takesValue : OptionName → Bool
  | outputFormat | config | phase | viewerTeam | team => true
  | _ => false

/-- The options that may stand behind a command, or in front of any. -/
def isKnown (command : Option CommandName) : OptionName → Bool
  | team => match command with
    | some .partition | some .summary | some .validate => true
    | _ => false
  | overCapFirst => command = some .summary
  | _ => true

def find? (command : Option CommandName) (p : OptionName → Bool) : Option OptionName :=
  all.find? fun o => isKnown command o && p o

end OptionName

/-- What the arguments of one level say: those in front of a command, or those of the command.
The argument that stands by itself is not interpreted here. -/
structure Level where
  options : Options := {}
  team : Option String := none
  overCapFirst : Bool := false
  argument : Option String := none

/-- Where a value goes that is yet to be checked. -/
inductive Slot where
  | option (name : OptionName)
  | argument
  deriving Repr, DecidableEq

/-- The arguments read so far, with the slot that is still open and what goes there. An option
waits for its value if the next argument can be one. -/
structure Reading where
  level : Level := {}
  pending : Option (Slot × Option String) := none
  waits : Bool := false
  escaped : Bool := false

namespace Reading

/-- Keeps a value, unless one is there already. -/
def once {α : Type} (old : Option α) (new : Option α) : Except Stop (Option α) :=
  match old, new with
  | none, some a => .ok (some a)
  | _, _ => .error .usage

def onceFlag (old : Bool) : Except Stop Bool := if old then .error .usage else .ok true

def nonEmpty? (s : String) : Option String := if s = "" then none else some s

/-- Gives an option its value. -/
def assign (l : Level) (name : OptionName) (value : String) : Except Stop Level := do
  let o := l.options
  match name with
  | .outputFormat =>
    let format := ReportFormat.all.find? fun f => f.name == value
    return { l with options := { o with outputFormat := ← once o.outputFormat format } }
  | .config =>
    return { l with options := { o with config := ← once o.config (nonEmpty? value) } }
  | .phase =>
    return { l with options := { o with phase := ← once o.phase (SeasonPhase.parse? value) } }
  | .viewerTeam =>
    let id := (Text.parseInt64 value).toOption
    return { l with options := { o with viewerTeam := ← once o.viewerTeam id } }
  | .team => return { l with team := ← once l.team (some value) }
  | _ => .error .usage

/-- Takes an option that has no value. The number of the verbose ones stops at 255. -/
def switch (command : Option CommandName) (l : Level) (name : OptionName) :
    Except Stop Level := do
  let o := l.options
  match name with
  | .machine => return { l with options := { o with machine := ← onceFlag o.machine } }
  | .plain => return { l with options := { o with plain := ← onceFlag o.plain } }
  | .quiet => return { l with options := { o with quiet := ← onceFlag o.quiet } }
  | .verbose =>
    return { l with options := { o with
      verbose := if o.verbose = 255 then 255 else o.verbose + 1 } }
  | .overCapFirst => return { l with overCapFirst := ← onceFlag l.overCapFirst }
  | .help => .error .help
  | .version => .error (.version command)
  | _ => .error .usage

/-- What may stand by itself behind a command: the name of a shell, or a path. -/
def argument? (command : Option CommandName) (s : String) : Option String :=
  if command = some .completions then (Shell.all.find? fun shell => shell.name == s).map Shell.name
  else nonEmpty? s

/-- Checks what is pending. -/
def settle (command : Option CommandName) (r : Reading) : Except Stop Reading :=
  match r.pending with
  | none => .ok r
  | some (_, none) => .error .usage
  | some (.option name, some value) => do
    return { r with level := ← assign r.level name value, pending := none }
  | some (.argument, some value) => do
    let argument ← once r.level.argument (argument? command value)
    return { r with level := { r.level with argument }, pending := none }

/-- An option with the value attached to it, if there is one. -/
def option (command : Option CommandName) (name : OptionName) (attached : Option String)
    (r : Reading) : Except Stop Reading := do
  if name.takesValue then
    let r ← r.settle command
    match attached with
    | some value => return { r with level := ← assign r.level name value, waits := false }
    | none => return { r with pending := some (.option name, none), waits := true }
  else if attached.isSome then .error .usage
  else
    let r ← r.settle command
    return { r with level := ← switch command r.level name, waits := false }

def splitAtEquals (s : List Char) : List Char × Option String :=
  match s.dropWhile (· ≠ '=') with
  | [] => (s, none)
  | _ :: value => (s.takeWhile (· ≠ '='), some (String.ofList value))

/-- An argument behind two hyphens. -/
def long (command : Option CommandName) (s : List Char) (r : Reading) :
    Except Stop Reading :=
  let (word, value) := splitAtEquals s
  match OptionName.find? command fun o => o.long == String.ofList word with
  | some name => r.option command name value
  | none => .error .usage

/-- An argument behind one hyphen: options of one letter each, up to the first that takes a
value, which is the rest. -/
def short (command : Option CommandName) : List Char → Reading → Except Stop Reading
  | [], r => .ok r
  | c :: rest, r =>
    match OptionName.find? command fun o => o.short? == some c with
    | none => .error .usage
    | some name =>
      if name.takesValue then
        match rest with
        | [] => r.option command name none
        | '=' :: value => r.option command name (some (String.ofList value))
        | value => r.option command name (some (String.ofList value))
      else do
        let r ← r.option command name none
        short command rest r

/-- An argument that is no option. In front of a command there is none. -/
def plainArgument (command : Option CommandName) (s : String) (r : Reading) :
    Except Stop Reading := do
  if command.isNone then .error .usage
  else
    let r ← r.settle command
    if r.level.argument.isSome then .error .usage
    else return { r with pending := some (.argument, some s), waits := false }

/-- The value an option waits for, or an argument of its own. -/
def valueOrArgument (command : Option CommandName) (s : String) (r : Reading) :
    Except Stop Reading :=
  match r.waits, r.pending with
  | true, some (slot, _) => .ok { r with pending := some (slot, some s), waits := false }
  | _, _ => plainArgument command s r

/-- The next argument. After two hyphens alone, options are arguments too. -/
def next (command : Option CommandName) (s : String) (r : Reading) : Except Stop Reading :=
  if r.escaped then plainArgument command s r
  else
    match s.toList with
    | ['-', '-'] => .ok { r with escaped := true }
    | '-' :: '-' :: rest => long command rest r
    | ['-'] => valueOrArgument command s r
    | '-' :: rest => short command rest r
    | _ => valueOrArgument command s r

end Reading

open Reading

/-- The command that a level describes. -/
def command? (name : CommandName) (l : Level) : Option Command := do
  let argument ← l.argument
  match name with
  | .partition => return .report ⟨.partition, argument, l.team⟩
  | .summary => return .report ⟨.summary l.overCapFirst, argument, l.team⟩
  | .validate => return .report ⟨.validate, argument, l.team⟩
  | .completions => return .completions (← Shell.all.find? fun s => s.name == argument)

/-- Reads the arguments of a command. -/
def readCommand (name : CommandName) (args : List String) : Except Stop (Options × Command) := do
  let r ← args.foldlM (fun r s => next (some name) s r) {}
  let r ← r.settle (some name)
  match command? name r.level with
  | some command => return (r.level.options, command)
  | none => .error .usage

/-- Help is given on the program or on one of its commands. -/
def helpOn (args : List String) : Stop :=
  match args with
  | [] => .help
  | [s] => if s = "help" || (CommandName.parse? s).isSome then .help else .usage
  | _ => .usage

/-- Reads the arguments up to the command, the command, and then checks what was pending. -/
def readFrom (r : Reading) : List String → Except Stop CommandLine
  | [] => .error .usage
  | s :: rest =>
    if r.escaped || r.waits then (next none s r).bind fun r => readFrom r rest
    else if s = "help" then .error (helpOn rest)
    else
      match CommandName.parse? s with
      | some name => do
        let (inner, command) ← readCommand name rest
        let r ← r.settle none
        return ⟨r.level.options.under inner, command⟩
      | none => (next none s r).bind fun r => readFrom r rest

def parse (args : List String) : Except Stop CommandLine := readFrom {} args

end LeagueRoster.CommandLine
