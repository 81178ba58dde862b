import LocalVolumes.Json.Basic
import LocalVolumes.NameMap
import LocalVolumes.Startup

/-!
# LocalVolumes.Main — the command line

Reads the arguments and the environment, greets, and ends with what is wrong first.  No cluster is reached from
here.
-/

namespace LocalVolumes.Main

/-- The text on the options. -/
def helpText : String :=
  "Usage: local-volume-operator [OPTIONS]\n\nOptions:\n" ++
    String.join (CommandLine.Setting.all.map
      (fun s => "      --" ++ s.flag ++ " [env: " ++ s.variableName ++ "]\n")) ++
    "  -h, --help\n  -V, --version\n"

/-- A line of the log. -/
def logLine (asJson : Bool) (message : String) : String :=
  if asJson then
    (Json.object [("level", .string "INFO"), ("fields", .object [("message", .string message)]),
      ("target", .string Startup.logTarget)]).render
  else "INFO " ++ Startup.logTarget ++ ": " ++ message

/-- The variables that are looked at. -/
def readEnvironment : IO (NameMap String) :=
  (LogFilter.variableName :: CommandLine.Setting.all.map (·.variableName)).foldlM (fun m name => do
    match ← IO.getEnv name with
    | some value => return m.insert name value
    | none => return m) ∅

/-- Starts with options and log directives. -/
def start (o : Options) (directives : String) : IO UInt32 := do
  for line in LogFilter.complaints directives do
    IO.eprintln line
  for message in Startup.greeting o directives do
    IO.println (logLine o.logJson message)
  let failure := match Startup.plan o with
    | .error f => f
    | .ok _ => Startup.unreachable
  for line in failure.report do
    IO.eprintln line
  return 1

end LocalVolumes.Main

open LocalVolumes in
/-- Runs the operator. -/
def main (arguments : List String) : IO UInt32 := do
  let environment ← Main.readEnvironment
  match CommandLine.parse arguments environment.get? with
  | .error .usage =>
    IO.eprint Main.helpText
    return 2
  | .error .help =>
    IO.print Main.helpText
    return 0
  | .error .version =>
    IO.print Startup.versionText
    return 0
  | .ok o => Main.start o ((environment.get? LogFilter.variableName).getD "")
