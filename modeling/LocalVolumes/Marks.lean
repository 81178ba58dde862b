/-!
# LocalVolumes.Marks — the names by which managed objects are known

Parameters, labels, annotations and finalizers that the controller and the provisioner write and look for.
-/

namespace LocalVolumes.Marks

/-- The provisioner of every managed storage class. -/
def provisioner : String := "local.csi.storage.deckhouse.io"

/-! ### Parameters of a storage class -/

/-- The kind of the volumes. -/
def kindKey : String := "local.csi.storage.deckhouse.io/type"

/-- The only kind there is. -/
def kindValue : String := "lvm"

/-- Thick or thin. -/
def lvmTypeKey : String := "local.csi.storage.deckhouse.io/lvm-type"

/-- When a volume is bound to a node. -/
def bindingModeKey : String := "local.csi.storage.deckhouse.io/volume-binding-mode"

/-- The volume groups. -/
def volumeGroupsKey : String := "local.csi.storage.deckhouse.io/lvm-volume-groups"

/-- Whether thick volumes are contiguous. -/
def contiguousKey : String := "local.csi.storage.deckhouse.io/lvm-thick-contiguous"

/-- How deleted volumes are cleaned up. -/
def cleanupKey : String := "local.csi.storage.deckhouse.io/lvm-volume-cleanup"

/-- The file system. -/
def fsTypeKey : String := "csi.storage.k8s.io/fstype"

/-- The file system of classes that name none. -/
def defaultFsType : String := "ext4"

/-! ### Finalizers, labels and annotations -/

/-- The finalizer of the controller. -/
def controllerFinalizer : String := "storage.deckhouse.io/local-storage-class-controller"

/-- A finalizer that earlier releases of the controller wrote; it goes together with the present one. -/
def legacyControllerFinalizer : String := "localstorageclass.storage.deckhouse.io"

/-- Both finalizers of the controller. -/
def controllerFinalizers : List String := [controllerFinalizer, legacyControllerFinalizer]

/-- The finalizer of the provisioner. -/
def provisionerFinalizer : String := "storage.deckhouse.io/sds-local-volume-csi"

/-- The label of managed storage classes. -/
def managedByKey : String := "storage.deckhouse.io/managed-by"

/-- Its value. -/
def managedByValue : String := "d8-sds-local-volume-storage-class-controller"

/-- The annotation that names the snapshot class. -/
def snapshotClassKey : String := "storage.deckhouse.io/volumesnapshotclass"

/-- Its value. -/
def snapshotClassValue : String := "sds-local-volume-snapshot-class"

/-! ### Volumes -/

/-- The key of the node in a topology. -/
def topologyKey : String := "topology.sds-local-volume-csi/node"

/-- The directory of a volume on its node. -/
def subPathKey : String := "subPath"

/-- The volume group of a volume as its node knows it. -/
def vgNameKey : String := "vgname"

/-- The thin pool of a volume, empty for a thick one. -/
def thinPoolNameKey : String := "thinPoolName"

end LocalVolumes.Marks
