import LocalVolumes.ApiServer
import LocalVolumes.Client
import LocalVolumes.Metrics
import LocalVolumes.Reconciliation

/-!
# LocalVolumes.Controller — passes over all classes, one after the other

The controller watches local classes, storage classes and volume groups.  What it is told makes passes due: at the
start one for every class, later one for each class that a change may concern.  A pass says when it wants to run
again, and it runs then unless a change has made it run before.  Passes due at one moment are one pass, and a
class that the controller has not been told of gets none.
-/

namespace LocalVolumes

/-- How the controller works. -/
structure ControllerConfig where
  /-- Milliseconds until a class is looked at again. -/
  requeueInterval : Nat := 10000
  /-- Seconds until a watch is renewed. -/
  watchTimeout : Nat := 25
  deriving DecidableEq, Repr

/-- Whether changes can be watched at all, which is refused for a watch that takes too long. -/
def ControllerConfig.canWatch (cfg : ControllerConfig) : Bool := cfg.watchTimeout < 295

namespace Controller

/-! ### What the controller is told -/

/-- A change of which the controller is told.  Without the object itself it is the stored one of the name. -/
inductive Notice
  /-- A local class was added or changed, or it is gone. -/
  | localClass (gone : Bool) (name : String) (given : Option LocalClass)
  | storageClass (name : String) (given : Option StorageClass)
  | volumeGroup (name : String) (given : Option VolumeGroup)

/-- What another actor does. -/
inductive Deed
  | intervene (i : Cluster.Intervention)
  | call (c : Call)

/-- What happens at a time: others change the cluster, and the controller is told of changes. -/
structure Event where
  /-- Milliseconds since the start. -/
  time : Nat
  deeds : List Deed
  notices : List Notice

/-! ### The state of the controller -/

/-- A request of the controller and the status of the reply. -/
structure Entry where
  time : Nat
  request : Exchange.Request
  status : Nat

/-- The controller and the cluster that it works on. -/
structure State where
  cluster : Cluster := {}
  metrics : Metrics := {}
  /-- Milliseconds since the start. -/
  time : Nat := 0
  /-- The local classes as the controller was told of them. -/
  known : NameMap LocalClass := ∅
  /-- The times at which passes are due, by class. -/
  due : NameMap Nat := ∅
  /-- The times at which the last passes ended, by class. -/
  ended : NameMap Nat := ∅
  /-- The requests, the last one first. -/
  entries : List Entry := []

namespace State

/-- Makes a pass due at a time, unless it is due before.  It waits for the end of the pass before it. -/
def schedule (s : State) (time : Nat) (name : String) : State :=
  let time := max time ((s.ended.get? name).getD 0)
  let time := match s.due.get? name with
    | some t => min t time
    | none => time
  { s with due := s.due.insert name time }

/-- Makes passes due now. -/
def trigger (s : State) (names : List String) : State :=
  names.foldl (fun s name => s.schedule s.time name) s

/-- Takes notice of a change. -/
def notice (s : State) : Notice → State
  | .localClass gone name given =>
    match given.orElse (fun _ => s.cluster.localClasses.get? name) with
    | none => s
    | some c =>
      if gone then { s with known := s.known.erase (Resource.key c) }
      else { s with known := s.known.insert (Resource.key c) c }.trigger [Resource.key c]
  | .storageClass name given =>
    match given.orElse (fun _ => s.cluster.storageClasses.get? name) with
    | none => s
    | some c => s.trigger c.metadata.name.toList
  | .volumeGroup name given =>
    match given.orElse (fun _ => s.cluster.groups.get? name) with
    | none => s
    | some g => s.trigger (classesAffectedBy s.known.values g.name)

/-- The state after a deed of another actor, whether it succeeds or not. -/
def deed (s : State) : Deed → State
  | .intervene i => { s with cluster := s.cluster.intervene i }
  | .call c => { s with cluster := (s.cluster.answer c).2 }

/-- The state after an event. -/
def happen (cfg : ControllerConfig) (s : State) (e : Event) : State :=
  (if cfg.canWatch then e.notices else []).foldl notice (e.deeds.foldl deed s)

/-! ### Passes -/

/-- The waits between the attempts at a read, half as long again each time and ten seconds in all. -/
def waits : List Nat := [500, 750, 1125, 1687, 2531]

/-- Sends a request. -/
def send (r : Exchange.Request) : StateM State Exchange.Reply := fun s =>
  let (reply, cluster) := ApiServer.respond s.cluster r
  let status := match reply with
    | .response status _ => status
    | .failure _ => 0
  (reply, { s with cluster, entries := ⟨s.time, r, status⟩ :: s.entries })

/-- Waits. -/
def wait (ms : Nat) : StateM State Unit := fun s => ((), { s with time := s.time + ms })

/-- What a pass gets to know. -/
def effect : (e : Effect) → StateM State e.Answer
  | .call c => Client.answer send wait waits c
  | .now => fun s => (s.time, s)
  | .pause ms => fun s => (false, { s with time := s.time + ms })
  | .record sample => fun s => ((), { s with metrics := s.metrics.record sample })

/-- Runs the pass over a class that the controller knows.  Time that it spends waiting is its own: passes over
other classes run meanwhile. -/
def pass (cfg : ControllerConfig) (name : String) (s : State) : State :=
  let s := { s with due := s.due.erase name }
  match s.known.get? name with
  | none => s
  | some c =>
    let (r, after) := (reconcileNamed cfg.requeueInterval c.name).interpret effect s
    let next := match r with
      | .ok next => next
      | .error e => errorPolicy cfg.requeueInterval e
    let s := { after with time := s.time, ended := after.ended.insert name after.time }
    match next with
    | .awaitChange => s
    | .after ms => s.schedule (after.time + ms) name

/-- Runs the passes that are due. -/
def passes (cfg : ControllerConfig) (s : State) : State :=
  ((s.due.toList.filter (fun d => d.2 ≤ s.time)).map (·.1)).foldl (fun s name => s.pass cfg name) s

end State

/-! ### The loop -/

/-- The first moment at which something happens: the next event, or the next pass that is due. -/
def nextMoment? (s : State) (events : List Event) : Option Nat :=
  (events.head?.map (·.time)).toList.foldl (fun m t => some ((m.map (min t)).getD t))
    (s.due.toList.foldl (fun m d => some ((m.map (min d.2)).getD d.2)) none)

/-- Runs until a time, through at most so many moments; events come in their order. -/
def runMoments (cfg : ControllerConfig) (deadline : Nat) : Nat → List Event → State → State
  | 0, _, s => s
  | fuel + 1, events, s =>
    match nextMoment? s events with
    | none => s
    | some moment =>
      if deadline ≤ moment ∧ s.time < moment then s
      else
        let s := { s with time := max s.time moment }
        let now := events.takeWhile (fun e => e.time ≤ s.time)
        runMoments cfg deadline fuel (events.drop now.length)
          ((now.foldl (State.happen cfg) s).passes cfg)

/-- The controller when it starts: it lists the classes, and a pass is due for each. -/
def start (cluster : Cluster) : State :=
  let s : State := { cluster, known := NameMap.ofList (cluster.localClasses.values.map (fun c => (Resource.key c, c))) }
  s.trigger s.known.keys

/-- Runs the controller until a time.  Every moment is at least a millisecond after the one before. -/
def run (cfg : ControllerConfig) (deadline : Nat) (events : List Event) (cluster : Cluster) : State :=
  runMoments cfg deadline (deadline + events.length + 2) events (start cluster)

/-! ### What is seen of it -/

/-- The collections that are watched. -/
def watched : List Collection := [.localClasses, .volumeGroups, .storageClasses]

/-- The requests by which a collection is watched: its objects are listed, then their changes are. -/
def watchTargets (cfg : ControllerConfig) (c : Collection) : List String :=
  (c.path ++ "?&limit=500") ::
    if cfg.canWatch then
      [c.path ++ "?&watch=true&timeoutSeconds=" ++ toString cfg.watchTimeout ++
        "&allowWatchBookmarks=true&resourceVersion=1"]
    else []

/-- The name of the object of a request. -/
def Entry.name? (e : Entry) : Option String :=
  match Target.ofPath? e.request.target with
  | some (.collection _) =>
    ((e.request.body.getD .null).field "metadata").field "name" |>.text?
  | some t => t.name?
  | none => none

/-- A request without the version of its collection. -/
def Entry.label (e : Entry) : String :=
  e.request.method.word ++ " " ++ ((Target.ofPath? e.request.target).map Target.label).getD ""

/-- The targets of all lists that were asked for, ascending and without repetition. -/
def State.listed (cfg : ControllerConfig) (s : State) : List String :=
  sortedNames (watched.flatMap (watchTargets cfg) ++
    (s.entries.filter (fun e => e.name?.isNone)).map (·.request.target))

/-- The requests about objects by the names of these, in their order. -/
def State.log (s : State) : NameMap (List Entry) :=
  s.entries.foldl (fun m e =>
    match e.name? with
    | some name => m.insert name (e :: (m.get? name).getD [])
    | none => m) ∅

end Controller

end LocalVolumes
