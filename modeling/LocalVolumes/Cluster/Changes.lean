import LocalVolumes.Cluster

/-!
# LocalVolumes.Cluster.Changes — what is different in a cluster

The storage classes, local classes and logical volumes that differ between two clusters.
-/

namespace LocalVolumes.Cluster

/-- The objects of one kind that are different in the later of two tables, by kind and name; none stands for one
that is gone. -/
def changedObjects {α : Type} [DecidableEq α] (kind : String) (toJson : α → Json)
    (before after : NameMap α) : List (String × Option Json) :=
  let label (name : String) : String := kind ++ "/" ++ name
  (before.toList.filter (fun e => !after.contains e.1)).map (fun e => (label e.1, none)) ++
    (after.toList.filter (fun e => before.get? e.1 != some e.2)).map
      (fun e => (label e.1, some (toJson e.2)))

/-- All objects but the volume groups that are different. -/
def changes (before after : Cluster) : List (String × Option Json) :=
  changedObjects StorageClass.kind StorageClass.toJson before.storageClasses after.storageClasses ++
    changedObjects LocalClass.kind LocalClass.toJson before.localClasses after.localClasses ++
    changedObjects LogicalVolume.kind LogicalVolume.toJson before.volumes after.volumes

end LocalVolumes.Cluster
