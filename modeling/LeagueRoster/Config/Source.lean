import LeagueRoster.Config.Layer
import LeagueRoster.Config.Override
import LeagueRoster.Workspace

/-!
Where a configuration comes from. A file that is named, on the command line or else by a
variable, has to be there and stands alone; otherwise the file in the workspace lies on top of
the personal one, and either may be missing. The variables of the settings lie on top of all.
-/
namespace LeagueRoster.Config

/-- The file that is named: an argument goes before the variable. -/
def namedFile (w : Workspace) (argument : Option String) : Option String :=
  argument <|> w.environment "FBKL_CONFIG"

def personalFile (w : Workspace) : Option String :=
  w.personalDirectory.map fun directory => Path.join directory "fbkl/config.toml"

def workspaceFile : String := "fbkl.toml"

/-- The layer in a file, if there is a file. -/
def layerAt (w : Workspace) (path : String) : Except Fault (Option ConfigLayer) :=
  match w.entry path with
  | .missing _ => .ok none
  | .unreadable reason => .error (.config ("read config " ++ path ++ ": " ++ reason))
  | .text content => (readLayer (" " ++ path) content).map some

/-- Lays a file on top, if there is one. -/
def stackFile (w : Workspace) (c : Config) (path : String) : Except Fault Config := do
  match ← layerAt w path with
  | some layer => c.merge layer
  | none => return c

def ofNamedFile (w : Workspace) (path : String) : Except Fault Config := do
  match ← layerAt w path with
  | some layer => Config.merge {} layer
  | none => .error (.missingConfig ("config file " ++ path ++ " does not exist"))

def ofUsualFiles (w : Workspace) : Except Fault Config := do
  let c ←
    match personalFile w with
    | some path => stackFile w {} path
    | none => pure {}
  stackFile w c workspaceFile

def ofFiles (w : Workspace) (argument : Option String) : Except Fault Config :=
  match namedFile w argument with
  | some path => ofNamedFile w path
  | none => ofUsualFiles w

/-- The configuration of a run, given the file that its command line names. -/
def load (w : Workspace) (argument : Option String) : Except Fault Config := do
  let c ← ofFiles w argument
  match c.override w.environment with
  | (c, none) => return c
  | (_, some text) => .error (.config text)

/-- The files that may take part. -/
def candidates (w : Workspace) (argument : Option String) : List String :=
  match namedFile w argument with
  | some path => [path]
  | none => (personalFile w).toList ++ [workspaceFile]

end LeagueRoster.Config
