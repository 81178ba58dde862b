import LocalVolumes.LocalClass
import LocalVolumes.StorageClass

/-!
# LocalVolumes.Materialization — the storage class of a local class

What the storage class of a local class looks like, what is kept of the one that it replaces, and whether a
storage class differs from what it should be.
-/

namespace LocalVolumes

namespace Materialization

/-- The file system of a class. -/
def fsType (spec : LocalClassSpec) : String :=
  match spec.fsType with
  | some fs => if fs = "" then Marks.defaultFsType else fs
  | none => Marks.defaultFsType

/-- Whether thick volumes are to be contiguous. -/
def wantsContiguous (lvm : LvmSpec) : Bool := (lvm.thick.map (·.contiguous)).getD false

/-- The parameters that tell the provisioner how to make volumes. -/
def parameters (spec : LocalClassSpec) (lvm : LvmSpec) (bindings : List Binding) :
    NameMap String :=
  let base := NameMap.ofList [
    (Marks.kindKey, Marks.kindValue),
    (Marks.lvmTypeKey, lvm.lvmType.word),
    (Marks.bindingModeKey, spec.bindingMode.word),
    (Marks.volumeGroupsKey, Binding.encode bindings),
    (Marks.fsTypeKey, fsType spec)]
  let base := if wantsContiguous lvm then base.insert Marks.contiguousKey "true" else base
  match lvm.volumeCleanup with
  | some cleanup => if cleanup = "" then base else base.insert Marks.cleanupKey cleanup
  | none => base

/-- The storage class of a local class with volume groups. -/
def storageClass (c : LocalClass) (lvm : LvmSpec) (bindings : List Binding) : StorageClass :=
  { metadata := {
      name := some c.name
      labels := some ((c.metadata.labels.getD ∅).insert Marks.managedByKey Marks.managedByValue)
      annotations := some ((∅ : NameMap String).insert Marks.snapshotClassKey Marks.snapshotClassValue)
      finalizers := some [Marks.controllerFinalizer] }
    provisioner := Marks.provisioner
    parameters := some (parameters c.spec lvm bindings)
    reclaimPolicy := some c.spec.reclaimPolicy.word
    bindingMode := some c.spec.bindingMode.word
    allowVolumeExpansion := some true }

/-- The annotations of one map, and of another where the first has none. -/
def addMissing (annotations old : NameMap String) : NameMap String :=
  old.toList.foldl (fun m e => m.insertIfNew e.1 e.2) annotations

/-- A storage class with the annotations of another that it does not have itself. -/
def keepAnnotations (sc current : StorageClass) : StorageClass :=
  match current.metadata.annotations with
  | none => sc
  | some old =>
    let annotations := addMissing (sc.metadata.annotations.getD ∅) old
    { sc with metadata := { sc.metadata with annotations := some annotations } }

end Materialization

open Materialization

/-- The storage class of a local class, if that has volume groups at all. -/
def buildStorageClass? (c : LocalClass) (bindings : List Binding) : Option StorageClass :=
  c.spec.lvm.map (fun lvm => storageClass c lvm bindings)

/-- The storage class that takes the place of another; it keeps annotations that others have put there. -/
def buildReplacement? (c : LocalClass) (bindings : List Binding) (current : StorageClass) :
    Option StorageClass :=
  (buildStorageClass? c bindings).map (fun sc => keepAnnotations sc current)

/-- The bindings that a storage class has, if its parameter can be read. -/
def currentBindings? (sc : StorageClass) : Option (List Binding) :=
  Binding.decode? (sc.parameter Marks.volumeGroupsKey)

namespace Materialization

/-- The cleanup that a local class asks for, empty for none. -/
def cleanup (c : LocalClass) : String := (c.spec.lvm.bind (·.volumeCleanup)).getD ""

/-- Whether the bindings that are there differ from those that should be: in number, in a group, or for thin
volumes in a pool. -/
def bindingsDiffer (thin : Bool) (existing desired : List Binding) : Bool :=
  let byName := NameMap.ofList (existing.map (fun b => (b.name, b)))
  existing.length != desired.length ||
    desired.any (fun b => match byName.get? b.name with
      | none => true
      | some e => thin && e.thin != b.thin)

end Materialization

/-- Whether a storage class differs from what it should be, in its cleanup or its bindings; none if its bindings
cannot be read. -/
def hasDiff? (current : StorageClass) (c : LocalClass) (desired : List Binding) : Option Bool :=
  (currentBindings? current).map (fun existing =>
    cleanup c != current.parameter Marks.cleanupKey ||
      bindingsDiffer ((c.spec.lvm.map (·.lvmType)) == some .thin) existing desired)

end LocalVolumes
