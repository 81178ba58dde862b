import LocalVolumes.Text.Digits

/-!
# LocalVolumes.CommandLine — what the operator is told at its start

Every option has a flag, a variable of the environment and a default; a flag counts before the variable, which
is not even looked at then.  A flag stands once, with its value behind it or after an equals sign.
-/

namespace LocalVolumes

/-- The parts of the operator. -/
inductive Component
  | controller
  | provisioner
  | all
  deriving DecidableEq, Repr

/-- The word of a part on the command line. -/
def Component.word : Component → String
  | .controller => "controller"
  | .provisioner => "provisioner"
  | .all => "all"

/-- The name of a part. -/
def Component.name : Component → String
  | .controller => "Controller"
  | .provisioner => "Provisioner"
  | .all => "All"

/-- The part of a word. -/
def Component.ofWord? (s : String) : Option Component :=
  [Component.controller, .provisioner, .all].find? (·.word == s)

/-- What can be told. -/
structure Options where
  component : Component := .all
  apiAddress : String := "0.0.0.0:8090"
  healthAddress : String := "0.0.0.0:8081"
  metricsAddress : String := "0.0.0.0:8080"
  logLevel : String := "info"
  logJson : Bool := false
  /-- Seconds. -/
  requeueInterval : Nat := 10
  /-- Seconds. -/
  watchTimeout : Nat := 25
  /-- Milliseconds. -/
  pollInterval : Nat := 500
  /-- Seconds. -/
  convergenceTimeout : Nat := 300
  resizeDelta : String := "32Mi"
  deriving DecidableEq, Repr

namespace CommandLine

/-! ### Options -/

/-- An option. -/
inductive Setting
  | component
  | apiAddress
  | healthAddress
  | metricsAddress
  | logLevel
  | logJson
  | requeueInterval
  | watchTimeout
  | pollInterval
  | convergenceTimeout
  | resizeDelta
  deriving DecidableEq, Repr

namespace Setting

/-- All options. -/
def all : List Setting :=
  [.component, .apiAddress, .healthAddress, .metricsAddress, .logLevel, .logJson, .requeueInterval,
    .watchTimeout, .pollInterval, .convergenceTimeout, .resizeDelta]

/-- The flag of an option. -/
def flag : Setting → String
  | .component => "component"
  | .apiAddress => "api-addr"
  | .healthAddress => "health-addr"
  | .metricsAddress => "metrics-addr"
  | .logLevel => "log-level"
  | .logJson => "log-json"
  | .requeueInterval => "requeue-interval-secs"
  | .watchTimeout => "watch-timeout-secs"
  | .pollInterval => "poll-interval-ms"
  | .convergenceTimeout => "convergence-timeout-secs"
  | .resizeDelta => "resize-delta"

/-- The variable of an option. -/
def variableName : Setting → String
  | .component => "COMPONENT"
  | .apiAddress => "API_ADDR"
  | .healthAddress => "HEALTH_ADDR"
  | .metricsAddress => "METRICS_ADDR"
  | .logLevel => "LOG_LEVEL"
  | .logJson => "LOG_JSON"
  | .requeueInterval => "REQUEUE_INTERVAL"
  | .watchTimeout => "WATCH_TIMEOUT"
  | .pollInterval => "POLL_INTERVAL_MS"
  | .convergenceTimeout => "CONVERGENCE_TIMEOUT"
  | .resizeDelta => "RESIZE_DELTA"

end Setting

/-- A number below a limit; a plus sign may stand before it. -/
def natural? (limit : Nat) (s : String) : Option Nat :=
  let ds := match s.toList with
    | '+' :: ds => ds
    | ds => ds
  if ds ≠ [] ∧ ds.all Char.isDigit ∧ Text.digitsValue ds < limit then some (Text.digitsValue ds) else none

/-- A number below a limit; a sign may stand before it, and a minus sign before zeros only. -/
def signed? (limit : Nat) (s : String) : Option Nat :=
  match s.toList with
  | '-' :: ds => if ds ≠ [] ∧ ds.all (· == '0') then some 0 else none
  | _ => natural? limit s

/-- A truth value. -/
def truth? : String → Option Bool
  | "true" => some true
  | "false" => some false
  | _ => none

/-- The options with another value for one of them. -/
def assign (o : Options) (value : String) : Setting → Option Options
  | .component => (Component.ofWord? value).map (fun c => { o with component := c })
  | .apiAddress => some { o with apiAddress := value }
  | .healthAddress => some { o with healthAddress := value }
  | .metricsAddress => some { o with metricsAddress := value }
  | .logLevel => some { o with logLevel := value }
  | .logJson => (truth? value).map (fun b => { o with logJson := b })
  | .requeueInterval => (natural? UInt64.size value).map (fun n => { o with requeueInterval := n })
  | .watchTimeout => (signed? UInt32.size value).map (fun n => { o with watchTimeout := n })
  | .pollInterval => (natural? UInt64.size value).map (fun n => { o with pollInterval := n })
  | .convergenceTimeout => (natural? UInt64.size value).map (fun n => { o with convergenceTimeout := n })
  | .resizeDelta => some { o with resizeDelta := value }

/-! ### Arguments -/

/-- Why the operator does not start. -/
inductive Stop
  | usage
  | version
  | help
  deriving DecidableEq, Repr

/-- A part of the command line, as it looks. -/
inductive Word
  /-- Two dashes alone: no flags come after them. -/
  | endOfFlags
  /-- A flag with two dashes, with a value after an equals sign or without. -/
  | long (name : String) (value : Option String)
  /-- Letters after one dash. -/
  | short (letters : List Char)
  | plain (text : String)
  deriving DecidableEq, Repr

/-- What an argument looks like. -/
def Word.ofArgument (s : String) : Word :=
  match s.toList with
  | ['-', '-'] => .endOfFlags
  | '-' :: '-' :: cs =>
    let name := String.ofList (cs.takeWhile (· != '='))
    match cs.dropWhile (· != '=') with
    | _ :: value => .long name (some (String.ofList value))
    | [] => .long name none
  | '-' :: c :: cs => .short (c :: cs)
  | _ => .plain s

/-- The options that were told so far, and which those are. -/
structure Told where
  options : Options := {}
  settings : List Setting := []

/-- Takes a value for an option that was not told yet. -/
def Told.take (t : Told) (s : Setting) (value : String) : Except Stop Told :=
  if t.settings.contains s then .error .usage
  else
    match assign t.options value s with
    | some options => .ok ⟨options, s :: t.settings⟩
    | none => .error .usage

/-- The option of a flag. -/
def settingOf? (flag : String) : Option Setting := Setting.all.find? (·.flag == flag)

/-- Reads arguments in their order. -/
def readArguments (t : Told) : List Word → Except Stop Told
  | [] => .ok t
  | .endOfFlags :: rest => if rest = [] then .ok t else .error .usage
  | .plain _ :: _ => .error .usage
  | .short letters :: _ =>
    match letters with
    | 'V' :: _ => .error .version
    | 'h' :: _ => .error .help
    | _ => .error .usage
  | .long name none :: rest =>
    if name = "version" then .error .version
    else if name = "help" then .error .help
    else
      match settingOf? name with
      | none => .error .usage
      | some .logJson => do readArguments (← t.take .logJson "true") rest
      | some s =>
        match rest with
        | .plain value :: rest => do readArguments (← t.take s value) rest
        | _ => .error .usage
  | .long name (some value) :: rest =>
    match settingOf? name with
    | none => .error .usage
    | some .logJson => .error .usage
    | some s => do readArguments (← t.take s value) rest

/-- Takes the variables of the options that were not told. -/
def readVariables (environment : String → Option String) (t : Told) : Except Stop Told :=
  Setting.all.foldlM (fun t s =>
    match environment s.variableName with
    | none => .ok t
    | some value => if t.settings.contains s then .ok t else t.take s value) t

/-- The options of a command line in an environment. -/
def parse (arguments : List String) (environment : String → Option String) : Except Stop Options := do
  let t ← readArguments {} (arguments.map Word.ofArgument)
  return (← readVariables environment t).options

end CommandLine

end LocalVolumes
