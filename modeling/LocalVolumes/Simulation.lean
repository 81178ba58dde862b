import LocalVolumes.Cluster
import LocalVolumes.Metrics

/-!
# LocalVolumes.Simulation — routines on a cluster in memory, with a clock that is set by hand

A routine runs on a cluster, a clock and the counts; nothing takes time but its pauses.  During a pause others may
act: each pause of a routine has its number, and with it come the happenings that were planned for it.
-/

namespace LocalVolumes

/-- A cluster, the counts, a clock, and whether the routine or all of the service is told to stop. -/
structure Simulation where
  cluster : Cluster := {}
  metrics : Metrics := {}
  /-- Milliseconds since the beginning. -/
  time : Nat := 0
  /-- The number of pauses that were made. -/
  pauses : Nat := 0
  cancelled : Bool := false
  stopping : Bool := false

/-- Something that happens beside a routine. -/
inductive Happening
  | intervene (i : Cluster.Intervention)
  /-- Time passes. -/
  | advance (ms : Nat)
  /-- The routine is cancelled. -/
  | cancel
  /-- The service is told to stop. -/
  | stop

/-- What a routine looks at to see whether it is cancelled. -/
inductive StopSignal
  /-- Its own cancellation. -/
  | ofRoutine
  /-- That the service is told to stop. -/
  | ofService

namespace Simulation

/-- The simulation after a happening. -/
def happen (s : Simulation) : Happening → Simulation
  | .intervene i => { s with cluster := s.cluster.intervene i }
  | .advance ms => { s with time := s.time + ms }
  | .cancel => { s with cancelled := true }
  | .stop => { s with stopping := true }

/-- Whether a routine is to stop. -/
def isInterrupted (s : Simulation) : StopSignal → Bool
  | .ofRoutine => s.cancelled
  | .ofService => s.stopping

/-- The happenings that are planned for a pause. -/
def plannedFor (events : List (Nat × Happening)) (n : Nat) : List Happening :=
  (events.filter (fun e => e.1 == n)).map (·.2)

/-- The `n`-th pause of a routine that is not cancelled. -/
def sleep (s : Simulation) (events : List (Nat × Happening)) (n ms : Nat) : Simulation :=
  let s := (plannedFor events n).foldl happen s
  { s with time := s.time + ms, pauses := s.pauses + 1 }

/-- Runs a routine to its end; `n` pauses were made before. -/
def run {α : Type} (signal : StopSignal) (events : List (Nat × Happening)) :
    Routine α → Simulation → Nat → α × Simulation
  | .done a, s, _ => (a, s)
  | .ask (.call c) next, s, n =>
    let (r, cluster) := s.cluster.answer c
    run signal events (next r) { s with cluster } n
  | .ask .now next, s, n => run signal events (next s.time) s n
  | .ask (.pause ms) next, s, n =>
    if s.isInterrupted signal then run signal events (next true) s n
    else
      let s := s.sleep events (n + 1) ms
      run signal events (next (s.isInterrupted signal)) s (n + 1)
  | .ask (.record sample) next, s, n =>
    run signal events (next ()) { s with metrics := s.metrics.record sample } n

/-- Runs a routine that has not been cancelled yet. -/
def perform {α : Type} (s : Simulation) (signal : StopSignal) (events : List (Nat × Happening))
    (t : Routine α) : α × Simulation :=
  run signal events t { s with cancelled := false } 0

end Simulation

end LocalVolumes
