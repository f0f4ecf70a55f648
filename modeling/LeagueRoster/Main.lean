import LeagueRoster.Run
import LeagueRoster.Text.Instant
import Std.Time.DateTime

/-!
The program. It reads the variables and files that a run may look at, hands them over, and
prints what the run says. Standard input is read only when the run comes that far.
-/
namespace LeagueRoster.Program

/-- The variables that a run may ask for. -/
def variableNames : List String :=
  Setting.all.map Setting.variableName ++
    ["FBKL_CONFIG", "XDG_CONFIG_HOME", "HOME", "CLICOLOR_FORCE", "CLICOLOR", "NO_COLOR", "TERM"]

/-- What the system says of a path that cannot be read. A path through a file leads nowhere. -/
def entryOfError : IO.Error → Entry
  | .noFileOrDirectory _ code details => .missing (reason code details)
  | .inappropriateType _ code details =>
    if code = 20 then .missing (reason code details) else .unreadable (reason code details)
  | .permissionDenied _ code details => .unreadable (reason code details)
  | e => .missing (toString e)
where
  reason (code : UInt32) (details : String) : String :=
    details ++ " (os error " ++ Text.decimal code.toNat ++ ")"

def readEntry (path : String) : IO Entry := do
  try
    let handle ← IO.FS.Handle.mk path .read
    match String.fromUTF8? (← handle.readBinToEnd) with
    | some content => return .text content
    | none => return .unreadable notTextReason
  catch e => return entryOfError e

def readFiles (paths : List String) : IO (List (String × Entry)) :=
  paths.mapM fun path => do return (path, ← readEntry path)

def readInput : IO Entry := do
  try return .text (← (← IO.getStdin).readToEnd)
  catch _ => return .unreadable notTextReason

/-- The home of an account in the list of accounts. -/
def homeIn? (accounts account : String) : Option String :=
  (accounts.splitOn "\n").findSome? fun line =>
    let fields := line.splitOn ":"
    if fields[2]? = some account then fields[5]?.filter (· ≠ "") else none

/-- The number of the account in the description of a running program. -/
def accountIn? (description : String) : Option String := do
  let line ← (description.splitOn "\n").find? fun line => (line.splitOn "\t").head? = some "Uid:"
  (line.splitOn "\t")[1]?

/-- The home that the system has on record for the account of the run. -/
def recordedHome : IO (Option String) := do
  match ← readEntry "/proc/self/status", ← readEntry "/etc/passwd" with
  | .text description, .text accounts => return (accountIn? description).bind (homeIn? accounts)
  | _, _ => return none

def withFiles (w : Workspace) (files : List (String × Entry)) : Workspace :=
  { w with entry := fun path =>
      match files.lookup path with
      | some e => e
      | none => w.entry path }

/-- The workspace of a report: the input is read only if the configuration stands. -/
def gather (options : Options) (request : ReportRequest) (w : Workspace) : IO Workspace := do
  let w := withFiles w (← readFiles (Config.candidates w options.config))
  match Config.load w options.config, Snapshot.Source.ofPath request.input with
  | .ok _, .ok .input => return { w with input := ← readInput }
  | .ok _, .ok source => return withFiles w (← readFiles source.path?.toList)
  | _, _ => return w

def now : IO String := do
  let t ← Std.Time.Timestamp.now
  let elapsed := t.toNanosecondsSinceUnixEpoch.toInt.toNat
  return Text.instant (elapsed / 1000000000) (elapsed % 1000000000)

end LeagueRoster.Program

open LeagueRoster Program in
/-- Prints what a run says and exits as it says. -/
def main (args : List String) : IO UInt32 := do
  let values ← variableNames.mapM fun name => do return (name, ← IO.getEnv name)
  let environment (name : String) := (values.lookup name).join
  let stdout ← IO.getStdout
  let w : Workspace :=
    { environment,
      entry := fun _ => .missing "No such file or directory (os error 2)",
      isTerminal := ← stdout.isTty
      personalDirectory := usualDirectory environment (← recordedHome) }
  let w ←
    match CommandLine.parse args with
    | .ok ⟨options, .report request⟩ => gather options request w
    | _ => pure w
  let outcome := run w (← now) args
  stdout.putStr outcome.output
  (← IO.getStderr).putStr outcome.errors
  return outcome.exit.toUInt32
