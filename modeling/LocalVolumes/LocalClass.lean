import LocalVolumes.Binding
import LocalVolumes.Marks
import LocalVolumes.Selector

/-!
# LocalVolumes.LocalClass — the declared classes of local storage

A local class says which volume groups back a storage class, by name or by label, and how volumes are carved
from them.  Its status tells how the last pass over it ended.
-/

namespace LocalVolumes

/-- How volumes take their space. -/
inductive LvmType
  | thick
  | thin
  deriving DecidableEq, Repr

/-- What becomes of a volume when its claim is gone. -/
inductive ReclaimPolicy
  | delete
  | retain
  deriving DecidableEq, Repr

/-- When a volume is bound to a node. -/
inductive BindingMode
  | immediate
  | waitForFirstConsumer
  deriving DecidableEq, Repr

/-- How far the passes over a local class have come. -/
inductive ClassPhase
  /-- No pass has ended. -/
  | pending
  | created
  | failed
  deriving DecidableEq, Repr

/-! ### Words -/

/-- The word of a type. -/
def LvmType.word : LvmType → String
  | .thick => "Thick"
  | .thin => "Thin"

/-- The type of a word. -/
def LvmType.ofWord? : String → Option LvmType
  | "Thick" => some .thick
  | "Thin" => some .thin
  | _ => none

/-- The word of a policy. -/
def ReclaimPolicy.word : ReclaimPolicy → String
  | .delete => "Delete"
  | .retain => "Retain"

/-- The policy of a word. -/
def ReclaimPolicy.ofWord? : String → Option ReclaimPolicy
  | "Delete" => some .delete
  | "Retain" => some .retain
  | _ => none

/-- The word of a mode. -/
def BindingMode.word : BindingMode → String
  | .immediate => "Immediate"
  | .waitForFirstConsumer => "WaitForFirstConsumer"

/-- The mode of a word. -/
def BindingMode.ofWord? : String → Option BindingMode
  | "Immediate" => some .immediate
  | "WaitForFirstConsumer" => some .waitForFirstConsumer
  | _ => none

/-- The word of a phase; that of the first is empty. -/
def ClassPhase.word : ClassPhase → String
  | .pending => ""
  | .created => "Created"
  | .failed => "Failed"

/-- The phase of a word. -/
def ClassPhase.ofWord? : String → Option ClassPhase
  | "" => some .pending
  | "Created" => some .created
  | "Failed" => some .failed
  | _ => none

/-! ### Local classes -/

/-- Settings of thick volumes. -/
structure ThickSettings where
  contiguous : Bool
  deriving DecidableEq, Repr

/-- A volume group listed by name, perhaps narrowed to a pool. -/
structure GroupRef where
  name : String
  thin : Option ThinPoolRef
  deriving DecidableEq, Repr

/-- The volume groups and volumes of a local class. -/
structure LvmSpec where
  lvmType : LvmType
  groups : List GroupRef
  selector : Option LabelSelector
  /-- The pool of groups that the selector chooses. -/
  thinPoolName : Option String
  volumeCleanup : Option String
  thick : Option ThickSettings
  deriving DecidableEq

/-- What is declared. -/
structure LocalClassSpec where
  reclaimPolicy : ReclaimPolicy
  bindingMode : BindingMode
  lvm : Option LvmSpec
  fsType : Option String
  deriving DecidableEq

/-- How the last pass ended. -/
structure ClassStatus where
  phase : Option ClassPhase
  reason : Option String
  deriving DecidableEq, Repr

/-- A local class. -/
structure LocalClass where
  metadata : Metadata
  spec : LocalClassSpec
  status : Option ClassStatus
  deriving DecidableEq

instance : Resource LocalClass := ⟨LocalClass.metadata, fun c m => { c with metadata := m }⟩

/-- The status after a pass that succeeded. -/
def ClassStatus.created : ClassStatus := ⟨some .created, none⟩

/-- The status after a pass that failed. -/
def ClassStatus.failed (reason : String) : ClassStatus := ⟨some .failed, some reason⟩

/-- The binding of a listed group. -/
def Binding.ofRef (g : GroupRef) : Binding := ⟨g.name, g.thin⟩

namespace LocalClass

/-- The name, or `unknown`. -/
def name (c : LocalClass) : String := c.metadata.nameOrUnknown

/-- Whether the deletion of the class was asked for. -/
def isBeingDeleted (c : LocalClass) : Bool := c.metadata.isBeingDeleted

/-- Whether the class has the finalizer of the controller. -/
def hasFinalizer (c : LocalClass) : Bool := c.metadata.hasFinalizer Marks.controllerFinalizer

/-- The class with the finalizer of the controller, and whether it had to be added. -/
def addFinalizer (c : LocalClass) : LocalClass × Bool :=
  if c.hasFinalizer then (c, false)
  else ({ c with metadata := c.metadata.addFinalizer Marks.controllerFinalizer }, true)

/-- The class without the finalizers of the controller, and whether it had one. -/
def removeFinalizer (c : LocalClass) : LocalClass × Bool :=
  ({ c with metadata := c.metadata.removeFinalizers Marks.controllerFinalizers },
    c.metadata.hasAnyFinalizer Marks.controllerFinalizers)

/-- Whether the class chooses groups by label. -/
def usesSelector (c : LocalClass) : Bool := (c.spec.lvm.map (·.selector.isSome)).getD false

/-- Whether the class lists a group. -/
def referencesGroup (c : LocalClass) (group : String) : Bool :=
  (c.spec.lvm.map (·.groups.any (·.name == group))).getD false

/-- The phase, if the class has one. -/
def phase (c : LocalClass) : Option ClassPhase := c.status.bind (·.phase)

/-- Whether the last pass failed. -/
def isFailed (c : LocalClass) : Bool := c.phase == some .failed

end LocalClass

/-! ### JSON -/

open Json (Draft)

/-- A reference to a pool as JSON. -/
def ThinPoolRef.toJson (t : ThinPoolRef) : Json := .object [("poolName", .string t.poolName)]

/-- The reference to a pool of a draft. -/
def ThinPoolRef.ofDraft? (d : Draft) : Option ThinPoolRef := do
  let fields ← d.record? ["poolName"]
  return ⟨← (← fields.lookup "poolName").text?⟩

/-- A group by name as JSON. -/
def GroupRef.toJson (g : GroupRef) : Json :=
  Json.objectOf [("name", some (.string g.name)), ("thin", g.thin.map ThinPoolRef.toJson)]

/-- The group by name of a draft. -/
def GroupRef.ofDraft? (d : Draft) : Option GroupRef := do
  let fields ← d.record? ["name", "thin"]
  return {
    name := ← (← fields.lookup "name").text?
    thin := ← Draft.optional? ThinPoolRef.ofDraft? (fields.lookup "thin") }

/-- A binding as JSON. -/
def Binding.toJson (b : Binding) : Json :=
  Json.objectOf [("name", some (.string b.name)), ("thin", b.thin.map ThinPoolRef.toJson)]

/-- The binding of a draft. -/
def Binding.ofDraft? (d : Draft) : Option Binding := (GroupRef.ofDraft? d).map Binding.ofRef

/-- Settings of thick volumes as JSON. -/
def ThickSettings.toJson (t : ThickSettings) : Json := .object [("contiguous", .bool t.contiguous)]

/-- The settings of a draft. -/
def ThickSettings.ofDraft? (d : Draft) : Option ThickSettings := do
  let fields ← d.record? ["contiguous"]
  return ⟨← Draft.withDefault? false Draft.bool? (fields.lookup "contiguous")⟩

namespace LvmSpec

/-- The volume groups and volumes as JSON. -/
def toJson (s : LvmSpec) : Json :=
  Json.objectOf [
    ("type", some (.string s.lvmType.word)),
    ("lvmVolumeGroups", some (.array (s.groups.map GroupRef.toJson))),
    ("lvmVolumeGroupSelector", s.selector.map LabelSelector.toJson),
    ("thinPoolName", s.thinPoolName.map .string),
    ("volumeCleanup", s.volumeCleanup.map .string),
    ("thick", s.thick.map ThickSettings.toJson)]

/-- The volume groups and volumes of a draft. -/
def ofDraft? (d : Draft) : Option LvmSpec := do
  let fields ← d.record?
    ["type", "lvmVolumeGroups", "lvmVolumeGroupSelector", "thinPoolName", "volumeCleanup", "thick"]
  return {
    lvmType := ← (← (← fields.lookup "type").word?) |> LvmType.ofWord?
    groups := ← Draft.withDefault? [] (Draft.items? GroupRef.ofDraft?) (fields.lookup "lvmVolumeGroups")
    selector := ← Draft.optional? LabelSelector.ofDraft? (fields.lookup "lvmVolumeGroupSelector")
    thinPoolName := ← Draft.optional? Draft.text? (fields.lookup "thinPoolName")
    volumeCleanup := ← Draft.optional? Draft.text? (fields.lookup "volumeCleanup")
    thick := ← Draft.optional? ThickSettings.ofDraft? (fields.lookup "thick") }

end LvmSpec

namespace LocalClassSpec

/-- What is declared, as JSON. -/
def toJson (s : LocalClassSpec) : Json :=
  Json.objectOf [
    ("reclaimPolicy", some (.string s.reclaimPolicy.word)),
    ("volumeBindingMode", some (.string s.bindingMode.word)),
    ("lvm", s.lvm.map LvmSpec.toJson),
    ("fsType", s.fsType.map .string)]

/-- What a draft declares. -/
def ofDraft? (d : Draft) : Option LocalClassSpec := do
  let fields ← d.record? ["reclaimPolicy", "volumeBindingMode", "lvm", "fsType"]
  return {
    reclaimPolicy := ← (← (← fields.lookup "reclaimPolicy").word?) |> ReclaimPolicy.ofWord?
    bindingMode := ← (← (← fields.lookup "volumeBindingMode").word?) |> BindingMode.ofWord?
    lvm := ← Draft.optional? LvmSpec.ofDraft? (fields.lookup "lvm")
    fsType := ← Draft.optional? Draft.text? (fields.lookup "fsType") }

end LocalClassSpec

namespace ClassStatus

/-- A status as JSON. -/
def toJson (s : ClassStatus) : Json :=
  Json.objectOf [("phase", s.phase.map (fun p => .string p.word)), ("reason", s.reason.map .string)]

/-- The status of a draft. -/
def ofDraft? (d : Draft) : Option ClassStatus := do
  let fields ← d.record? ["phase", "reason"]
  return {
    phase := ← Draft.optional? (fun d => d.word?.bind ClassPhase.ofWord?) (fields.lookup "phase")
    reason := ← Draft.optional? Draft.text? (fields.lookup "reason") }

end ClassStatus

namespace LocalClass

/-- The version of the format that the objects of the volume controllers have. -/
def apiVersion : String := "storage.deckhouse.io/v1alpha1"

/-- The kind of the objects. -/
def kind : String := "LocalStorageClass"

/-- A local class as JSON. -/
def toJson (c : LocalClass) : Json :=
  Json.objectOf [
    ("apiVersion", some (.string apiVersion)),
    ("kind", some (.string kind)),
    ("metadata", some c.metadata.toJson),
    ("spec", some c.spec.toJson),
    ("status", c.status.map ClassStatus.toJson)]

/-- The local class of a draft. -/
def ofDraft? (d : Draft) : Option LocalClass := do
  let parts ← Declared.ofDraft? LocalClassSpec.ofDraft? ClassStatus.ofDraft? d
  return ⟨parts.metadata, parts.spec, parts.status⟩

end LocalClass

end LocalVolumes
