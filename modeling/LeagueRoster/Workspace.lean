/-!
What a run of the program finds around it: the variables of its environment, what stands at the
paths it looks at, where personal configuration is kept, its standard input, and whether its output
goes to a terminal. A path may hold a text, nothing at all, or something that is no text; the last
two say why. Doubled slashes and dots that stand for the same place are no parts of a path, a dot in
front apart. The extension is what follows the last dot of the last part, unless nothing stands
before that dot.
-/
namespace LeagueRoster

namespace Path

def isAbsolute (path : String) : Bool := path.toList.head? = some '/'

/-- The parts of a path; an absolute path starts with an empty one. -/
def parts (path : String) : List String :=
  match (path.toList.splitOn '/').map String.ofList with
  | [] => []
  | first :: rest =>
    let rest := rest.filter fun part => part ≠ "" && part ≠ "."
    if first = "" && !isAbsolute path then rest else first :: rest

def join (directory name : String) : String :=
  if directory = "" || directory.toList.getLast? = some '/' then directory ++ name
  else directory ++ "/" ++ name

/-- The last part, unless it stands for a place and has no name of its own. -/
def fileName? (path : String) : Option String :=
  match (parts path).getLast? with
  | some name => if name = "" || name = "." || name = ".." then none else some name
  | none => none

def extension? (path : String) : Option String := do
  let name ← fileName? path
  let reversed := name.toList.reverse
  let stem := (reversed.dropWhile (· ≠ '.')).tail
  if stem.isEmpty then none
  else some (String.ofList (reversed.takeWhile (· ≠ '.')).reverse)

end Path

inductive Entry where
  | text (content : String)
  | missing (reason : String)
  | unreadable (reason : String)
  deriving Repr, DecidableEq

/-- The reason that bytes are no text. -/
def notTextReason : String := "stream did not contain valid UTF-8"

def Entry.text? : Entry → Except String String
  | text content => .ok content
  | missing reason => .error reason
  | unreadable reason => .error reason

/-- Where personal configuration is usually kept: in the directory that a variable names, unless its
path is relative, or else in the home of the account, which another variable names or the system has
on record. -/
def usualDirectory (environment : String → Option String) (recordedHome : Option String) :
    Option String :=
  match (environment "XDG_CONFIG_HOME").filter Path.isAbsolute with
  | some directory => some directory
  | none =>
    let home := (environment "HOME").filter (· ≠ "") <|> recordedHome
    home.map fun home => Path.join home ".config"

structure Workspace where
  environment : String → Option String := fun _ => none
  entry : String → Entry
  input : Entry := .text ""
  isTerminal : Bool := false
  /-- Up to the system; this is its custom where no account has a home on record. -/
  personalDirectory : Option String := usualDirectory environment none

end LeagueRoster
