import LocalVolumes.VolumeGroup

/-!
# LocalVolumes.LogicalVolume — requests for logical volumes

A logical volume is asked for by an object that names its group, its size and how it takes its space.  The
node of the group carves it out and reports its phase and its actual size.
-/

namespace LocalVolumes

/-- How far a volume is. -/
inductive VolumePhase
  | pending
  | created
  | resizing
  | failed
  /-- Any other phase that a node reports. -/
  | unknown
  deriving DecidableEq, Repr

/-- The word of a phase. -/
def VolumePhase.word : VolumePhase → String
  | .pending => "Pending"
  | .created => "Created"
  | .resizing => "Resizing"
  | .failed => "Failed"
  | .unknown => "Unknown"

/-- The phase of a word. -/
def VolumePhase.ofWord : String → VolumePhase
  | "Pending" => .pending
  | "Created" => .created
  | "Resizing" => .resizing
  | "Failed" => .failed
  | _ => .unknown

/-- What a node reports. -/
structure VolumeStatus where
  phase : Option VolumePhase
  reason : Option String
  actualSize : Option Quantity
  deriving DecidableEq, Repr

/-- What is asked for. -/
structure VolumeSpec where
  actualName : String
  lvmType : LvmType
  size : Quantity
  groupName : String
  thin : Option ThinPoolRef
  thick : Option ThickSettings
  deriving DecidableEq, Repr

/-- A logical volume. -/
structure LogicalVolume where
  metadata : Metadata
  spec : VolumeSpec
  status : Option VolumeStatus
  deriving DecidableEq

instance : Resource LogicalVolume := ⟨LogicalVolume.metadata, fun v m => { v with metadata := m }⟩

namespace LogicalVolume

/-- A new request, with the finalizer of the provisioner. -/
def request (name : String) (spec : VolumeSpec) : LogicalVolume :=
  { metadata := { name := some name, finalizers := some [Marks.provisionerFinalizer] }
    spec, status := none }

/-- The name, or `unknown`. -/
def name (v : LogicalVolume) : String := v.metadata.nameOrUnknown

/-- The phase, if one is reported. -/
def phase (v : LogicalVolume) : Option VolumePhase := v.status.bind (·.phase)

/-- The reported size in bytes, zero as long as none is reported. -/
def actualBytes (v : LogicalVolume) : Except Quantity.Fault Nat :=
  Quantity.bytesOrZero (v.status.bind (·.actualSize))

/-- The size that is asked for, in bytes. -/
def requestedBytes (v : LogicalVolume) : Except Quantity.Fault Nat := v.spec.size.bytes

/-- Why the volume failed, empty where no reason is reported. -/
def failureReason (v : LogicalVolume) : String := (v.status.bind (·.reason)).getD ""

/-- The volume without the finalizer of the provisioner, and whether it had it. -/
def removeFinalizer (v : LogicalVolume) : LogicalVolume × Bool :=
  ({ v with metadata := v.metadata.removeFinalizers [Marks.provisionerFinalizer] },
    v.metadata.hasAnyFinalizer [Marks.provisionerFinalizer])

end LogicalVolume

/-! ### JSON -/

open Json (Draft)

/-- A report as JSON. -/
def VolumeStatus.toJson (s : VolumeStatus) : Json :=
  Json.objectOf [
    ("phase", s.phase.map (fun p => .string p.word)),
    ("reason", s.reason.map .string),
    ("actualSize", s.actualSize.map Quantity.toJson)]

/-- The report of a draft. -/
def VolumeStatus.ofDraft? (d : Draft) : Option VolumeStatus := do
  let fields ← d.record? ["phase", "reason", "actualSize"]
  return {
    phase := ← Draft.optional? (fun d => d.word?.map VolumePhase.ofWord) (fields.lookup "phase")
    reason := ← Draft.optional? Draft.text? (fields.lookup "reason")
    actualSize := ← Draft.optional? Quantity.ofDraft? (fields.lookup "actualSize") }

/-- What is asked for, as JSON. -/
def VolumeSpec.toJson (s : VolumeSpec) : Json :=
  Json.objectOf [
    ("actualLVNameOnTheNode", some (.string s.actualName)),
    ("type", some (.string s.lvmType.word)),
    ("size", some s.size.toJson),
    ("lvmVolumeGroupName", some (.string s.groupName)),
    ("thin", s.thin.map ThinPoolRef.toJson),
    ("thick", s.thick.map ThickSettings.toJson)]

/-- What a draft asks for. -/
def VolumeSpec.ofDraft? (d : Draft) : Option VolumeSpec := do
  let fields ← d.record?
    ["actualLVNameOnTheNode", "type", "size", "lvmVolumeGroupName", "thin", "thick"]
  return {
    actualName := ← (← fields.lookup "actualLVNameOnTheNode").text?
    lvmType := ← (← (← fields.lookup "type").word?) |> LvmType.ofWord?
    size := ← Quantity.ofDraft? (← fields.lookup "size")
    groupName := ← (← fields.lookup "lvmVolumeGroupName").text?
    thin := ← Draft.optional? ThinPoolRef.ofDraft? (fields.lookup "thin")
    thick := ← Draft.optional? ThickSettings.ofDraft? (fields.lookup "thick") }

namespace LogicalVolume

/-- The kind of the objects. -/
def kind : String := "LVMLogicalVolume"

/-- A logical volume as JSON. -/
def toJson (v : LogicalVolume) : Json :=
  Json.objectOf [
    ("apiVersion", some (.string LocalClass.apiVersion)),
    ("kind", some (.string kind)),
    ("metadata", some v.metadata.toJson),
    ("spec", some v.spec.toJson),
    ("status", v.status.map VolumeStatus.toJson)]

/-- The logical volume of a draft. -/
def ofDraft? (d : Draft) : Option LogicalVolume := do
  let parts ← Declared.ofDraft? VolumeSpec.ofDraft? VolumeStatus.ofDraft? d
  return ⟨parts.metadata, parts.spec, parts.status⟩

end LogicalVolume

end LocalVolumes
