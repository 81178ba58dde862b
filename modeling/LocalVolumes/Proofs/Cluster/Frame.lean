import LocalVolumes.Proofs.Cluster.Calls

/-!
# LocalVolumes.Proofs.Cluster.Frame — what a call leaves alone

No call changes the volume groups, three calls only change the storage classes, two the local classes, and four the
volumes, one of which is a look at a volume that converges by itself.  A call that succeeds is journaled under its own
operation, if it is a write; the journal has nothing else.
-/

namespace LocalVolumes

/-- A call that may change a storage class. -/
def Call.WritesStorageClass : Call → Prop
  | .createStorageClass _ => True
  | .replaceStorageClass _ => True
  | .deleteStorageClass _ => True
  | _ => False

/-- A call that may change a local class. -/
def Call.WritesLocalClass : Call → Prop
  | .replaceLocalClass _ => True
  | .replaceLocalClassStatus _ => True
  | _ => False

/-- A call that may change a volume. -/
def Call.TouchesVolume : Call → Prop
  | .createVolume _ => True
  | .getVolume _ => True
  | .replaceVolume _ => True
  | .deleteVolume _ => True
  | _ => False

/-- What the journal has of a call that succeeds. -/
def Call.entries : Call → List Operation
  | .createStorageClass c => [.createStorageClass (Resource.key c)]
  | .replaceStorageClass c => [.replaceStorageClass (Resource.key c)]
  | .deleteStorageClass name => [.deleteStorageClass name]
  | .replaceLocalClass c => [.replaceLocalClass (Resource.key c)]
  | .replaceLocalClassStatus c => [.replaceLocalClassStatus (Resource.key c)]
  | .createVolume v => [.createVolume (Resource.key v)]
  | .replaceVolume v => [.replaceVolume (Resource.key v)]
  | .deleteVolume name => [.deleteVolume name]
  | _ => []

namespace Cluster

/-- What a call leaves alone, and how it is journaled. -/
structure Frame (c : Call) (s s' : Cluster) : Prop where
  version : s.version ≤ s'.version
  groups : s'.groups = s.groups
  storageClasses : ¬ c.WritesStorageClass → s'.storageClasses = s.storageClasses
  localClasses : ¬ c.WritesLocalClass → s'.localClasses = s.localClasses
  volumes : ¬ c.TouchesVolume → s'.volumes = s.volumes
  journal : ∃ ops, s'.journal = s.journal ++ ops ∧ ops ⊆ c.entries

variable {s s' : Cluster}

theorem Rests.frame (h : s.Rests s') (c : Call) : Frame c s s' := by
  obtain ⟨v, fs, hv, rfl⟩ := h
  exact ⟨hv, rfl, fun _ => rfl, fun _ => rfl, fun _ => rfl, [], (List.append_nil _).symm, List.nil_subset _⟩

section Write

variable {c : Call} (hv : s'.version = s.version + 1) (hg : s'.groups = s.groups)
  (hj : s'.journal = s.journal ++ c.entries)

include hv hg hj

/-- A write of the storage classes, under the next version. -/
theorem Frame.of_writesStorageClass (hc : c.WritesStorageClass) (hl : s'.localClasses = s.localClasses)
    (hvol : s'.volumes = s.volumes) : Frame c s s' :=
  ⟨by omega, hg, fun h => absurd hc h, fun _ => hl, fun _ => hvol, _, hj, List.Subset.refl _⟩

/-- A write of the local classes. -/
theorem Frame.of_writesLocalClass (hc : c.WritesLocalClass) (hs : s'.storageClasses = s.storageClasses)
    (hvol : s'.volumes = s.volumes) : Frame c s s' :=
  ⟨by omega, hg, fun _ => hs, fun h => absurd hc h, fun _ => hvol, _, hj, List.Subset.refl _⟩

/-- A write of the volumes. -/
theorem Frame.of_writesVolume (hc : c.TouchesVolume) (hs : s'.storageClasses = s.storageClasses)
    (hl : s'.localClasses = s.localClasses) : Frame c s s' :=
  ⟨by omega, hg, fun _ => hs, fun _ => hl, fun h => absurd hc h, _, hj, List.Subset.refl _⟩

end Write

/-- **Every call keeps to its frame.** -/
theorem Serves.frame {c : Call} {r : c.Result} (hs : s.Serves c r s') : Frame c s s' := by
  cases c with
  | listStorageClasses =>
    rcases hs.listStorageClasses with hf | ⟨-, rfl⟩
    · exact hf.2.frame _
    · exact (Rests.refl _).frame _
  | getStorageClass name =>
    rcases hs.getStorageClass with hf | ⟨-, rfl⟩
    · exact hf.2.frame _
    · exact (Rests.refl _).frame _
  | createStorageClass c =>
    rcases hs.createStorageClass with hf | ⟨-, -, rfl⟩
    · exact hf.2.frame _
    · exact .of_writesStorageClass rfl rfl rfl trivial rfl rfl
  | replaceStorageClass c =>
    rcases hs.replaceStorageClass with hf | ⟨stored, -, -, -, rfl⟩
    · exact hf.2.frame _
    · exact .of_writesStorageClass rfl rfl rfl trivial rfl rfl
  | deleteStorageClass name =>
    rcases hs.deleteStorageClass with hf | ⟨-, rfl⟩
    · exact hf.2.frame _
    · exact .of_writesStorageClass rfl rfl rfl trivial rfl rfl
  | listLocalClasses =>
    rcases hs.listLocalClasses with hf | ⟨-, rfl⟩
    · exact hf.2.frame _
    · exact (Rests.refl _).frame _
  | getLocalClass name =>
    rcases hs.getLocalClass with hf | ⟨-, rfl⟩
    · exact hf.2.frame _
    · exact (Rests.refl _).frame _
  | replaceLocalClass c =>
    rcases hs.replaceLocalClass with hf | ⟨stored, -, -, -, rfl⟩
    · exact hf.2.frame _
    · exact .of_writesLocalClass rfl rfl rfl trivial rfl rfl
  | replaceLocalClassStatus c =>
    rcases hs.replaceLocalClassStatus with hf | ⟨stored, -, -, -, rfl⟩
    · exact hf.2.frame _
    · exact .of_writesLocalClass rfl rfl rfl trivial rfl rfl
  | listVolumeGroups =>
    rcases hs.listVolumeGroups with hf | ⟨-, rfl⟩
    · exact hf.2.frame _
    · exact (Rests.refl _).frame _
  | getVolumeGroup name =>
    rcases hs.getVolumeGroup with hf | ⟨-, rfl⟩
    · exact hf.2.frame _
    · exact (Rests.refl _).frame _
  | createVolume v =>
    rcases hs.createVolume with hf | ⟨-, -, rfl⟩
    · exact hf.2.frame _
    · exact .of_writesVolume rfl rfl rfl trivial rfl rfl
  | getVolume name =>
    rcases hs.getVolume with hf | ⟨-, -, rfl⟩ | ⟨v, ver, vols, ps, -, rfl, hle, -⟩
    · exact hf.2.frame _
    · exact (Rests.refl _).frame _
    · exact ⟨hle, rfl, fun _ => rfl, fun _ => rfl, fun h => absurd trivial h, [], (List.append_nil _).symm,
        List.nil_subset _⟩
  | replaceVolume v =>
    rcases hs.replaceVolume with hf | ⟨stored, resized, ps, -, -, -, rfl⟩
    · exact hf.2.frame _
    · exact .of_writesVolume rfl rfl rfl trivial rfl rfl
  | deleteVolume name =>
    rcases hs.deleteVolume with hf | ⟨-, rfl⟩
    · exact hf.2.frame _
    · exact .of_writesVolume rfl rfl rfl trivial rfl rfl

theorem serves_answer (s : Cluster) (c : Call) : s.Serves c (s.answer c).1 (s.answer c).2 := .inl rfl

/-- The groups that are listed are those that there are. -/
theorem Serves.eq_values {inventory : List VolumeGroup} (hs : s.Serves .listVolumeGroups (.ok inventory) s') :
    inventory = s.groups.values := by
  rcases hs.listVolumeGroups with ⟨⟨e, he⟩, -⟩ | ⟨he, -⟩
  · simp at he
  · exact Except.ok.inj he

end Cluster

end LocalVolumes
