import LocalVolumes.CommandLine
import LocalVolumes.Controller
import LocalVolumes.LogFilter
import LocalVolumes.Provisioning
import LocalVolumes.SocketAddress
import LocalVolumes.Text.Blank

/-!
# LocalVolumes.Startup — from options to a running operator

Before anything is served the options are checked in a fixed order, and the first that is wrong ends the program.
What is logged until then depends on the level and on the directives of the
environment.
-/

namespace LocalVolumes

namespace Startup

/-- The version of the operator. -/
def version : String := "0.1.0"

/-- What is printed when the version is asked for. -/
def versionText : String := "local-volume-operator " ++ version ++ "\n"

/-! ### Logging -/

/-- The target of the messages of the operator. -/
def logTarget : String := "local_volume_operator"

/-- The level that an option stands for, which is a word in any case; the middle one if there is none. -/
def levelOf (s : String) : LogLevel :=
  (([LogLevel.trace, .debug, .info, .warn, .error].find?
    (fun l => l.word.toList == s.toList.map Char.toLower))).getD .info

/-- What is logged at the start.  The level of the options takes the place of one that the directives set for all
messages. -/
def greeting (o : Options) (directives : String) : List String :=
  let filter := LogFilter.ofText directives ++ [LogDirective.ofLevel (levelOf o.logLevel)]
  if (LogFilter.level filter logTarget).informs then
    ["Starting Local Volume Operator", "  Version: " ++ version, "  Component: " ++ o.component.name]
  else []

/-! ### Checks -/

/-- Why the operator ends: what it was about, and the cause behind it. -/
structure Failure where
  context : String
  cause : Option String := none
  deriving DecidableEq, Repr

/-- The lines of the report on a failure. -/
def Failure.report (f : Failure) : List String :=
  ("Error: " ++ f.context) :: match f.cause with
    | some cause => "" :: "Caused by:" :: (cause.splitOn "\n").map ("    " ++ ·)
    | none => []

/-- A value with its failure worded. -/
def checked {α : Type} (what value : String) (r : Except String α) : Except Failure α :=
  r.mapError (fun cause => { context := "invalid " ++ what ++ " " ++ Text.quoted value, cause := some cause })

/-- The address of a text. -/
def address (s : String) : Except String SocketAddress :=
  match SocketAddress.ofText? s with
  | some a => .ok a
  | none => .error "invalid socket address syntax"

/-- What the operator runs with. -/
structure Plan where
  component : Component
  controller : ControllerConfig
  provisioner : ProvisionerConfig
  api : SocketAddress
  health : SocketAddress
  metrics : SocketAddress

/-- Checks the options. -/
def plan (o : Options) : Except Failure Plan := do
  let resizeDelta ← checked "resize delta" o.resizeDelta
    ((Quantity.parse o.resizeDelta).mapError (fun e => e.toFault.message))
  let api ← checked "API address" o.apiAddress (address o.apiAddress)
  let health ← checked "health address" o.healthAddress (address o.healthAddress)
  let metrics ← checked "metrics address" o.metricsAddress (address o.metricsAddress)
  return {
    component := o.component
    controller := { requeueInterval := 1000 * o.requeueInterval, watchTimeout := o.watchTimeout }
    provisioner := {
      pollInterval := o.pollInterval
      convergenceTimeout := 1000 * o.convergenceTimeout
      resizeDelta }
    api, health, metrics }

/-- No cluster can be reached. -/
def unreachable : Failure :=
  { context := "unable to create Kubernetes client", cause := some "no configuration of a cluster was found" }

end Startup

end LocalVolumes
