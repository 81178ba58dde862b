import LocalVolumes.Causes
import LocalVolumes.Routine

/-!
# LocalVolumes.Provisioning — creating, growing and releasing volumes

A volume is asked for by an object; the node of its group carves it out in its own time.  So every request is
followed by a wait: the object is looked at in fixed intervals until the volume is there with the size that was
asked for, until it has failed, until the time is up or the request is cancelled.
-/

namespace LocalVolumes

/-- How long to wait, and how exact a size has to be. -/
structure ProvisionerConfig where
  /-- Milliseconds between two looks. -/
  pollInterval : Nat := 500
  /-- Milliseconds that a wait may take. -/
  convergenceTimeout : Nat := 300000
  /-- Two sizes count as equal if they differ by less than this many bytes. -/
  resizeDelta : Nat := 32 * 1024 * 1024
  deriving DecidableEq, Repr

/-- The first time, in milliseconds, that is too late for a clock to tell: it counts seconds in 63 bits. -/
def clockLimit : Nat := 1000 * Nat.pow 2 63

/-- The clock can tell all times of a wait that starts at `start`: the deadline, and how late it is after one more
interval, when the deadline has passed. -/
def ProvisionerConfig.FitsClock (cfg : ProvisionerConfig) (start : Nat) : Prop :=
  start + cfg.convergenceTimeout + cfg.pollInterval < clockLimit

instance (cfg : ProvisionerConfig) (start : Nat) : Decidable (cfg.FitsClock start) := Nat.decLt ..

/-- A request for a volume. -/
structure CreateRequest where
  name : String
  bytes : Nat
  parameters : NameMap String
  preferredNode : Option String

/-- A volume that was created. -/
structure CreatedVolume where
  id : String
  bytes : Nat
  context : NameMap String
  topology : NameMap String
  deriving DecidableEq

/-- A request to grow a volume. -/
structure ExpandRequest where
  id : String
  bytes : Nat
  /-- A block volume has no file system that has to grow with it. -/
  block : Bool

/-- A volume that has grown. -/
structure ExpandedVolume where
  bytes : Nat
  nodeExpansionRequired : Bool
  deriving DecidableEq, Repr

/-- Whether two sizes differ by less than `delta`. -/
def sizesEqual (left right delta : Nat) : Bool := (left - right) + (right - left) < delta

namespace Provisioning

/-! ### Waiting -/

/-- What a look at a volume says. -/
inductive Look
  | converged
  | stopped (e : Fault)
  | notYet
  deriving DecidableEq, Repr

/-- Judges a volume that was looked at. -/
def look (name : String) (requested delta : Nat) : Option LogicalVolume → Look
  | none => .stopped (.resourceNotFound LogicalVolume.kind name)
  | some v =>
    match v.phase with
    | some .failed => .stopped (.volumeFailed name v.failureReason)
    | some .created =>
      match v.actualBytes with
      | .error cause => .stopped cause.toFault
      | .ok actual => if sizesEqual requested actual delta then .converged else .notYet
    | _ => .notYet

/-- Looks at a volume again and again until `deadline`; `attempts` looks were made before.  Of looks there are at
most as many as `fuel` says. -/
def await (cfg : ProvisionerConfig) (name : String) (requested : Nat) (operation : String)
    (deadline : Nat) : (fuel : Nat) → (attempts : Nat) → Routine (Except Fault Nat)
  | 0, attempts => pure (.error (.timeout name attempts))
  | fuel + 1, attempts => do
    if ← Routine.pause cfg.pollInterval then pure (.error (.cancelled name))
    else
      match ← Routine.call (.getVolume name) with
      | .error e => pure (.error e)
      | .ok v =>
        match look name requested cfg.resizeDelta v with
        | .stopped e => pure (.error e)
        | .converged => do
          Routine.record (.convergence operation (attempts + 1))
          pure (.ok (attempts + 1))
        | .notYet =>
          if deadline ≤ (← Routine.now) then pure (.error (.timeout name (attempts + 1)))
          else await cfg name requested operation deadline fuel (attempts + 1)

/-- The largest number of looks that is counted. -/
def maxAttempts : Nat := UInt32.size - 1

/-- Waits until a volume has the size that was asked for. The answer is the number of looks.

Times are plain numbers here.  A clock cannot tell them all: to ask it for a deadline beyond its limit stops the whole
program, and the request gets no answer.  So results on the end of a wait suppose `ProvisionerConfig.FitsClock`. -/
def waitForConvergence (cfg : ProvisionerConfig) (name : String) (requested : Nat)
    (operation : String) : Routine (Except Fault Nat) := do
  let start ← Routine.now
  await cfg name requested operation (start + cfg.convergenceTimeout) maxAttempts 0

/-! ### Release -/

/-- Takes the finalizer of the provisioner from a volume, then deletes it.  A missing volume is released. -/
def release (name : String) : Routine (Except Fault Unit) := do
  match ← Routine.call (.getVolume name) with
  | .error e => pure (.error e)
  | .ok none => pure (.ok ())
  | .ok (some v) =>
    match v.removeFinalizer with
    | (stripped, true) =>
      match ← Routine.call (.replaceVolume stripped) with
      | .error e => if e.isNotFound then pure (.ok ()) else pure (.error e)
      | .ok _ => Routine.call (.deleteVolume name)
    | (_, false) => Routine.call (.deleteVolume name)

/-! ### Creation -/

/-- The object that asks for a volume at its place. -/
def volumeSpec (r : CreateRequest) (p : VolumeParameters) (d : Decision) : VolumeSpec :=
  { actualName := r.name
    lvmType := p.lvmType
    size := ⟨toString r.bytes⟩
    groupName := d.group
    thin := d.thinPool.map ThinPoolRef.mk
    thick := match p.lvmType with
      | .thick => some ⟨p.contiguous⟩
      | .thin => none }

/-- The place of a volume among the groups that there are. -/
def place (r : CreateRequest) (p : VolumeParameters) (inventory : List VolumeGroup) :
    Except Placement.Fault Decision := do
  let cs ← Placement.candidates inventory p
  Placement.select cs p.lvmType p.bindingMode r.bytes r.preferredNode

/-- What the workload is told of its volume. -/
def createdVolume (r : CreateRequest) (d : Decision) : CreatedVolume :=
  { id := r.name
    bytes := r.bytes
    context := ((r.parameters.insert Marks.subPathKey r.name).insert Marks.vgNameKey d.vgName).insert
      Marks.thinPoolNameKey (d.thinPool.getD "")
    topology := (∅ : NameMap String).insert Marks.topologyKey d.node }

/-- Waits for a volume that was asked for; if it does not come, it is released. -/
def settle (cfg : ProvisionerConfig) (r : CreateRequest) (d : Decision) :
    Routine (Except Fault CreatedVolume) := do
  match ← waitForConvergence cfg r.name r.bytes "create_volume" with
  | .ok _ => pure (.ok (createdVolume r d))
  | .error e => do
    let _ ← release r.name
    pure (.error e)

/-- Asks for a volume at its place and waits for it.  One that is already asked for is as good. -/
def createAt (cfg : ProvisionerConfig) (r : CreateRequest) (p : VolumeParameters) (d : Decision) :
    Routine (Except Fault CreatedVolume) := do
  match ← Routine.call (.createVolume (LogicalVolume.request r.name (volumeSpec r p d))) with
  | .ok _ => settle cfg r d
  | .error e => if e.isAlreadyExists then settle cfg r d else pure (.error e)

/-- Creates a volume. -/
def create (cfg : ProvisionerConfig) (r : CreateRequest) : Routine (Except Fault CreatedVolume) :=
  if r.name = "" then pure (.error (.invalidArgument "Volume Name cannot be empty"))
  else
    match VolumeParameters.ofMap r.parameters with
    | .error cause => pure (.error cause.toFault)
    | .ok p => do
      match ← Routine.call .listVolumeGroups with
      | .error e => pure (.error e)
      | .ok inventory =>
        match place r p inventory with
        | .error cause => pure (.error cause.toFault)
        | .ok d => createAt cfg r p d

/-! ### Growth -/

/-- An operation needs the name of its volume. -/
def noVolumeId : Fault := .invalidArgument "Volume id cannot be empty"

/-- Whether a volume is large enough as it is. -/
def isLargeEnough (requested actual delta : Nat) : Bool :=
  min (requested + delta) (sizeLimit - 1) < actual || sizesEqual requested actual delta

/-- Whether a group has room for a volume to grow. -/
def hasRoom (name : String) (growth : Nat) : Option VolumeGroup → Except Fault Unit
  | none => .error (.resourceNotFound VolumeGroup.kind name)
  | some g =>
    match g.freeBytes with
    | .error cause => .error cause.toFault
    | .ok free => if free < growth then .error (.insufficientCapacity growth free) else .ok ()

/-- Makes sure that the group of a thick volume has room for it to grow. -/
def checkRoom (v : LogicalVolume) (growth : Nat) : Routine (Except Fault Unit) :=
  match v.spec.lvmType with
  | .thin => pure (.ok ())
  | .thick => do
    match ← Routine.call (.getVolumeGroup v.spec.groupName) with
    | .error e => pure (.error e)
    | .ok g => pure (hasRoom v.spec.groupName growth g)

/-- Asks for a larger volume and waits for it. -/
def grow (cfg : ProvisionerConfig) (r : ExpandRequest) (v : LogicalVolume) :
    Routine (Except Fault ExpandedVolume) := do
  let larger := { v with spec := { v.spec with size := ⟨toString r.bytes⟩ } }
  match ← Routine.call (.replaceVolume larger) with
  | .error e => pure (.error e)
  | .ok _ =>
    match ← waitForConvergence cfg r.id r.bytes "expand_volume" with
    | .error e => pure (.error e)
    | .ok _ => pure (.ok ⟨r.bytes, !r.block⟩)

/-- Grows a volume. -/
def expand (cfg : ProvisionerConfig) (r : ExpandRequest) : Routine (Except Fault ExpandedVolume) :=
  if r.id = "" then pure (.error noVolumeId)
  else do
    match ← Routine.call (.getVolume r.id) with
    | .error e => pure (.error e)
    | .ok none => pure (.error (.resourceNotFound LogicalVolume.kind r.id))
    | .ok (some v) =>
      match v.actualBytes with
      | .error cause => pure (.error cause.toFault)
      | .ok actual =>
        if isLargeEnough r.bytes actual cfg.resizeDelta then pure (.ok ⟨actual, !r.block⟩)
        else
          match ← checkRoom v (r.bytes - actual) with
          | .error e => pure (.error e)
          | .ok () => grow cfg r v

/-! ### The operations -/

/-- Does some work and counts it with the time that it took. -/
def measured {α : Type} (operation : String) (work : Routine (Except Fault α)) :
    Routine (Except Fault α) := do
  let start ← Routine.now
  let r ← work
  let finish ← Routine.now
  let ok := match r with
    | .ok _ => true
    | .error _ => false
  Routine.record (.provisioning operation ok (finish - start))
  pure r

end Provisioning

open Provisioning

/-- Creates a volume. -/
def createVolume (cfg : ProvisionerConfig) (r : CreateRequest) : Routine (Except Fault CreatedVolume) :=
  measured "create_volume" (create cfg r)

/-- Grows a volume. -/
def expandVolume (cfg : ProvisionerConfig) (r : ExpandRequest) :
    Routine (Except Fault ExpandedVolume) :=
  measured "expand_volume" (expand cfg r)

/-- Releases a volume. -/
def deleteVolume (id : String) : Routine (Except Fault Unit) :=
  measured "delete_volume" (if id = "" then pure (.error noVolumeId) else release id)

end LocalVolumes
