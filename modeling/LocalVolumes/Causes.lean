import LocalVolumes.Admission
import LocalVolumes.Fault
import LocalVolumes.Materialization
import LocalVolumes.Placement
import LocalVolumes.Resolution

/-!
# LocalVolumes.Causes — the causes of the parts as faults of the whole

Sizes, selectors, parameters and placement each have their own ways to fail.  Here each becomes a fault with its
wording, and each part gets the form that the controller and the provisioner use.
-/

namespace LocalVolumes

/-- A malformed size. -/
def Quantity.Fault.toFault (cause : Quantity.Fault) : LocalVolumes.Fault := .quantityParse cause.message

/-- Groups that cannot be told. -/
def Resolution.Fault.toFault (cause : Resolution.Fault) : LocalVolumes.Fault := .resolution cause.message

/-- Parameters that do not tell how to make a volume. -/
def VolumeParameters.Fault.toFault (cause : VolumeParameters.Fault) : LocalVolumes.Fault :=
  .invalidArgument cause.message

/-- No place for a volume. -/
def Placement.Fault.toFault : Placement.Fault → LocalVolumes.Fault
  | .quantity cause => cause.toFault
  | .noPoolName group =>
    .invalidArgument
      ("thin pool name for lvg " ++ group ++ " not found in storage class parameters")
  | .noCandidate =>
    .noCandidate "no LVMVolumeGroup of the storage class is available on any node"
  | .noPreference =>
    .noCandidate "no preferred node supplied for WaitForFirstConsumer binding"
  | .noGroupOn node => .noCandidate ("no LVMVolumeGroup found for node " ++ node)
  | .insufficient requested available => .insufficientCapacity requested available

/-- A text that was to hold bindings and cannot be read. -/
def Fault.undecodableBindings (text : String := "") : Fault := .encoding (VolumeParameters.undecodableMessage text)

/-- A local class without volume groups, of which no storage class can be made. -/
def Fault.noClassType : Fault := .resolution "unable to identify the LocalStorageClass type"

/-- The bindings of a class. -/
def resolved (inventory : List VolumeGroup) (c : LocalClass) : Except Fault (List Binding) :=
  (resolveBindings inventory c).mapError (·.toFault)

/-- Nothing if no violation was found. -/
def admitted (vs : List Violation) : Except Fault Unit :=
  if vs.isEmpty then .ok () else .error (.validation (violationReport vs))

/-- The storage class of a local class. -/
def materialized (c : LocalClass) (bindings : List Binding) : Except Fault StorageClass :=
  match buildStorageClass? c bindings with
  | some sc => .ok sc
  | none => .error .noClassType

/-- The storage class that takes the place of another. -/
def replacement (c : LocalClass) (bindings : List Binding) (current : StorageClass) :
    Except Fault StorageClass :=
  match buildReplacement? c bindings current with
  | some sc => .ok sc
  | none => .error .noClassType

/-- Whether a storage class differs from what it should be. -/
def drifted (current : StorageClass) (c : LocalClass) (bindings : List Binding) :
    Except Fault Bool :=
  match hasDiff? current c bindings with
  | some b => .ok b
  | none => .error (.undecodableBindings (current.parameter Marks.volumeGroupsKey))

end LocalVolumes
