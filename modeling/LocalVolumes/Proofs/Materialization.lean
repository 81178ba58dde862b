import LocalVolumes.Proofs.Cluster.States
import LocalVolumes.Reconciliation

/-!
# LocalVolumes.Proofs.Materialization — the storage classes that passes write and look for

A storage class that a pass writes has the name of its local class, the provisioner of this library and the finalizer
of the controller, whether it is new or takes the place of another.  A pass finds a storage class by its name in the
list of all; as each is stored under its own key, that is a look at the key.
-/

theorem Except.eq_ok_of_toOption {ε α : Type} {x : Except ε α} {a : α} (h : x.toOption = some a) : x = .ok a := by
  cases x with
  | error e => simp [Except.toOption] at h
  | ok b => rw [Option.some.inj h]

namespace LocalVolumes

/-- A storage class as passes write it for a name. -/
structure IsMaterialization (n : String) (sc : StorageClass) : Prop where
  name : sc.metadata.name = some n
  finalizers : sc.metadata.finalizers = some [Marks.controllerFinalizer]
  provisioner : sc.provisioner = Marks.provisioner

namespace IsMaterialization

variable {n : String} {sc : StorageClass}

theorem isManaged (h : IsMaterialization n sc) : sc.isManaged = true := by
  simp [StorageClass.isManaged, h.provisioner]

theorem key (h : IsMaterialization n sc) : Resource.key sc = n := Resource.key_of_name h.name

theorem finalizerList (h : IsMaterialization n sc) :
    sc.metadata.finalizerList = [Marks.controllerFinalizer] := by
  simp [Metadata.finalizerList, h.finalizers]

end IsMaterialization

theorem isMaterialization_storageClass (c : LocalClass) (lvm : LvmSpec) (bindings : List Binding) :
    IsMaterialization c.name (Materialization.storageClass c lvm bindings) := ⟨rfl, rfl, rfl⟩

theorem IsMaterialization.keepAnnotations {n : String} {sc : StorageClass} (h : IsMaterialization n sc)
    (current : StorageClass) : IsMaterialization n (Materialization.keepAnnotations sc current) := by
  unfold Materialization.keepAnnotations
  split
  · exact h
  · exact ⟨h.name, h.finalizers, h.provisioner⟩

theorem Materialization.parameters_keepAnnotations (sc current : StorageClass) :
    (keepAnnotations sc current).parameters = sc.parameters := by
  unfold keepAnnotations
  split <;> rfl

theorem materialized_eq_ok {c : LocalClass} {bindings : List Binding} {sc : StorageClass}
    (h : materialized c bindings = .ok sc) :
    ∃ lvm, c.spec.lvm = some lvm ∧ sc = Materialization.storageClass c lvm bindings := by
  unfold materialized buildStorageClass? at h
  cases hl : c.spec.lvm with
  | none => simp [hl] at h
  | some lvm =>
    simp only [hl, Option.map_some, Except.ok.injEq] at h
    exact ⟨lvm, rfl, h.symm⟩

theorem replacement_eq_ok {c : LocalClass} {bindings : List Binding} {current sc : StorageClass}
    (h : replacement c bindings current = .ok sc) :
    ∃ lvm, c.spec.lvm = some lvm ∧
      sc = Materialization.keepAnnotations (Materialization.storageClass c lvm bindings) current := by
  unfold replacement buildReplacement? buildStorageClass? at h
  cases hl : c.spec.lvm with
  | none => simp [hl] at h
  | some lvm =>
    simp only [hl, Option.map_some, Except.ok.injEq] at h
    exact ⟨lvm, rfl, h.symm⟩

theorem IsMaterialization.of_materialized {c : LocalClass} {bindings : List Binding} {sc : StorageClass}
    (h : materialized c bindings = .ok sc) : IsMaterialization c.name sc := by
  obtain ⟨lvm, -, rfl⟩ := materialized_eq_ok h
  exact isMaterialization_storageClass c lvm bindings

theorem IsMaterialization.of_replacement {c : LocalClass} {bindings : List Binding}
    {current sc : StorageClass} (h : replacement c bindings current = .ok sc) : IsMaterialization c.name sc := by
  obtain ⟨lvm, -, rfl⟩ := replacement_eq_ok h
  exact (isMaterialization_storageClass c lvm bindings).keepAnnotations current

/-! ### The storage class of a name -/

theorem findClass?_values {m : NameMap StorageClass} (h : Cluster.Keyed m) (n : String) :
    findClass? m.values n = (m.get? n).filter (fun sc => sc.metadata.name == some n) :=
  NameMap.find?_values fun k sc hk hn => by
    rw [← h k sc hk, Resource.key_of_name (a := sc) (beq_iff_eq.1 hn)]

theorem findClass?_values_eq_some_iff {m : NameMap StorageClass} (h : Cluster.Keyed m) {n : String}
    {sc : StorageClass} :
    findClass? m.values n = some sc ↔ m.get? n = some sc ∧ sc.metadata.name = some n := by
  simp [findClass?_values h, Option.filter_eq_some_iff]

/-! ### A class to try things on -/

namespace Sample

/-- A volume group on one node. -/
def group : VolumeGroup :=
  { metadata := { name := some "vg-1" }, spec := ⟨"data"⟩
    status := some ⟨[⟨"node-1"⟩], some ⟨"10Gi"⟩, none, []⟩ }

/-- A class of thick volumes in the group. -/
def localClass : LocalClass :=
  { metadata := { name := some "local" }
    spec := ⟨.delete, .waitForFirstConsumer, some ⟨.thick, [⟨"vg-1", none⟩], none, none, none, none⟩, none⟩
    status := none }

/-- A cluster with the group and the class. -/
def cluster : Cluster :=
  (({} : Cluster).intervene (.putVolumeGroup group)).intervene (.putLocalClass localClass)

/-- The class as it is stored. -/
def storedClass : LocalClass := Cluster.stamped localClass "2" none

theorem arises_cluster : cluster.Arises := .intervene _ (.intervene _ .empty)

theorem named_cluster (n : String) (c : LocalClass) (h : cluster.localClasses.get? n = some c) :
    c.metadata.name = some n := by
  have hget : cluster.localClasses.get? n = if n = "local" then _ else none := NameMap.get?_insert ..
  rw [hget] at h
  split at h
  · next hn =>
    obtain rfl := Option.some.inj h
    exact hn ▸ rfl
  · simp at h

end Sample

end LocalVolumes
