import LocalVolumes.Fault
import LocalVolumes.LogicalVolume
import LocalVolumes.StorageClass

/-!
# LocalVolumes.Call — what can be asked of a cluster

The calls on storage classes, local classes, volume groups and logical volumes, and what each answers.  A missing
object is no failure of a read or of a deletion.  A creation fails if the name is taken, a replacement if the
object is missing or has a version other than the one that the request carries.
-/

namespace LocalVolumes

/-- A call on a cluster. -/
inductive Call
  | listStorageClasses
  | getStorageClass (name : String)
  | createStorageClass (c : StorageClass)
  | replaceStorageClass (c : StorageClass)
  | deleteStorageClass (name : String)
  | listLocalClasses
  | getLocalClass (name : String)
  /-- Replaces all but the status. -/
  | replaceLocalClass (c : LocalClass)
  /-- Replaces the status alone. -/
  | replaceLocalClassStatus (c : LocalClass)
  | listVolumeGroups
  | getVolumeGroup (name : String)
  | createVolume (v : LogicalVolume)
  | getVolume (name : String)
  /-- Replaces all but the status. -/
  | replaceVolume (v : LogicalVolume)
  | deleteVolume (name : String)

/-- What a call answers if it does not fail. -/
abbrev Call.Answer : Call → Type
  | .listStorageClasses => List StorageClass
  | .getStorageClass _ => Option StorageClass
  | .createStorageClass _ => StorageClass
  | .replaceStorageClass _ => StorageClass
  | .deleteStorageClass _ => Unit
  | .listLocalClasses => List LocalClass
  | .getLocalClass _ => Option LocalClass
  | .replaceLocalClass _ => LocalClass
  | .replaceLocalClassStatus _ => LocalClass
  | .listVolumeGroups => List VolumeGroup
  | .getVolumeGroup _ => Option VolumeGroup
  | .createVolume _ => LogicalVolume
  | .getVolume _ => Option LogicalVolume
  | .replaceVolume _ => LogicalVolume
  | .deleteVolume _ => Unit

/-- The result of a call. -/
abbrev Call.Result (c : Call) : Type := Except Fault c.Answer

end LocalVolumes
