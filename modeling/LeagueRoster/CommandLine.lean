import LeagueRoster.Report.Format
import LeagueRoster.Season

/-!
What a command line asks for: a report on the teams of a snapshot or a completion script, with
options that hold for any command. A line that asks for help or for the version ends there, and
one that is not well formed is a usage fault.
-/
namespace LeagueRoster

inductive Shell where
  | bash
  | elvish
  | fish
  | powershell
  | zsh
  deriving Repr, DecidableEq

namespace Shell

def all : List Shell := [bash, elvish, fish, powershell, zsh]

def name : Shell → String
  | bash => "bash"
  | elvish => "elvish"
  | fish => "fish"
  | powershell => "powershell"
  | zsh => "zsh"

end Shell

inductive CommandName where
  | partition
  | summary
  | validate
  | completions
  deriving Repr, DecidableEq

namespace CommandName

def all : List CommandName := [partition, summary, validate, completions]

def text : CommandName → String
  | partition => "partition"
  | summary => "summary"
  | validate => "validate"
  | completions => "completions"

def parse? (s : String) : Option CommandName := all.find? fun c => c.text == s

end CommandName

inductive ReportKind where
  | partition
  | summary (overCapFirst : Bool)
  | validate
  deriving Repr, DecidableEq

/-- A report on the teams in a snapshot, or on the one that is asked for. -/
structure ReportRequest where
  kind : ReportKind
  input : String
  team : Option String := none
  deriving Repr, DecidableEq

inductive Command where
  | report (request : ReportRequest)
  | completions (shell : Shell)
  deriving Repr, DecidableEq

/-- The options of every command. -/
structure Options where
  outputFormat : Option ReportFormat := none
  machine : Bool := false
  plain : Bool := false
  verbose : UInt8 := 0
  quiet : Bool := false
  config : Option String := none
  phase : Option SeasonPhase := none
  viewerTeam : Option Int64 := none
  deriving Repr, DecidableEq

namespace Options

/-- Plain output goes before a format that is named, and that before machine output. -/
def format (o : Options) : ReportFormat :=
  if o.plain then .plain
  else o.outputFormat.getD (if o.machine then .json else .human)

/-- What a command's own options say goes before the options in front of it. -/
def under (outer inner : Options) : Options where
  outputFormat := inner.outputFormat <|> outer.outputFormat
  machine := inner.machine || outer.machine
  plain := inner.plain || outer.plain
  verbose := if inner.verbose = 0 then outer.verbose else inner.verbose
  quiet := inner.quiet || outer.quiet
  config := inner.config <|> outer.config
  phase := inner.phase <|> outer.phase
  viewerTeam := inner.viewerTeam <|> outer.viewerTeam

end Options

structure CommandLine where
  options : Options
  command : Command
  deriving Repr, DecidableEq

/-- Why a command line is not carried out. -/
inductive Stop where
  | usage
  | help
  | version (command : Option CommandName)
  deriving Repr, DecidableEq

end LeagueRoster
