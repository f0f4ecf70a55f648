import LeagueRoster.CommandLine.Reader
import LeagueRoster.Report.Envelope

/-!
What the program says about itself: its version, a summary of its options, and completion
scripts. The version line is exact. The summaries and the scripts are this library's own, for their
wording is up to the argument parser of a program and to the shells; they name the same commands and
options. A script offers these by name.
-/
namespace LeagueRoster.Help

open CommandLine

def programName : String := "fbkl-roster"

/-- The version line of the program or of one of its commands. -/
def versionText (command : Option CommandName) : String :=
  match command with
  | some c => programName ++ "-" ++ c.text ++ " " ++ version ++ "\n"
  | none => programName ++ " " ++ version ++ "\n"

def commandHelp : CommandName → String
  | .partition => "Show each team's roster split into active, IR and rookie development groups"
  | .summary => "Show roster counts and cap usage per team"
  | .validate => "Check rosters against the limits of the season phase"
  | .completions => "Generate shell completion scripts"

def optionHelp : OptionName → String
  | .outputFormat => "Output format (human, json, jsonl, plain, tsv)"
  | .machine => "Enable machine-readable JSON output"
  | .plain => "Unstyled text output, no colors"
  | .verbose => "Increase verbosity"
  | .quiet => "Disable stderr logging; results still print"
  | .config => "Config file path"
  | .phase => "Season phase to evaluate caps and limits for"
  | .viewerTeam => "Team id of the viewer"
  | .team => "Only this team (name or id)"
  | .overCapFirst => "List teams over the cap first"
  | .help => "Print help"
  | .version => "Print version"

def usageText : String := "Usage: " ++ programName ++ " [OPTIONS] <COMMAND>\n"

def commandLine (c : CommandName) : String := "  " ++ c.text ++ ": " ++ commandHelp c ++ "\n"

def optionLine (o : OptionName) : String :=
  let short := match o.short? with
    | some c => "-" ++ c.toString ++ ", "
    | none => ""
  "  " ++ short ++ "--" ++ o.long ++ ": " ++ optionHelp o ++ "\n"

def helpText : String :=
  usageText ++ "\nCommands:\n" ++ String.join (CommandName.all.map commandLine) ++
    "\nOptions:\n" ++ String.join (OptionName.all.map optionLine)

def completionWords : List String :=
  CommandName.all.map CommandName.text ++ OptionName.all.map fun o => "--" ++ o.long

def completionScript (shell : Shell) : String :=
  let words := " ".intercalate completionWords
  match shell with
  | .bash => "complete -W '" ++ words ++ "' " ++ programName ++ "\n"
  | .zsh => "#compdef " ++ programName ++ "\ncompadd -- " ++ words ++ "\n"
  | .fish => "complete -c " ++ programName ++ " -f -a '" ++ words ++ "'\n"
  | .elvish =>
    "set edit:completion:arg-completer[" ++ programName ++ "] = \x7b|@words| put " ++ words ++
      " \x7d\n"
  | .powershell =>
    "Register-ArgumentCompleter -Native -CommandName '" ++ programName ++
      "' -ScriptBlock \x7b '" ++ words ++ "' -split ' ' \x7d\n"

end LeagueRoster.Help
