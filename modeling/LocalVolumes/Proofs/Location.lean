import LocalVolumes.Proofs.Creation
import LocalVolumes.Proofs.Placement

/-!
# LocalVolumes.Proofs.Location — where the workload is told that its volume is

The answer to a request for a volume names a node, the group on that node and the pool.  It is made from the place that
was chosen for this request.  A volume that the request has asked for is at that place.  One that was there before is
where it was, and the answer tells its location only if the choice is the same as for the request that it stems from.
-/

namespace LocalVolumes

open Cluster Routine Provisioning

/-- The pool of a volume, empty if it has none. -/
def LogicalVolume.poolName (w : LogicalVolume) : String := (w.spec.thin.map (·.poolName)).getD ""

/-- An answer tells where a volume is: its node is that of the group of the volume, and it has the name of that group
on the node and the pool of the volume. -/
def CreatedVolume.Locates (v : CreatedVolume) (inventory : List VolumeGroup) (w : LogicalVolume) : Prop :=
  (∃ g ∈ inventory, g.name = w.spec.groupName ∧ g.primaryNode.isSome ∧
    v.topology.get? Marks.topologyKey = g.primaryNode ∧ v.context.get? Marks.vgNameKey = some g.spec.actualName) ∧
  v.context.get? Marks.thinPoolNameKey = some w.poolName

instance (v : CreatedVolume) (inventory : List VolumeGroup) (w : LogicalVolume) : Decidable (v.Locates inventory w) :=
  inferInstanceAs (Decidable (_ ∧ _))

variable {cfg : ProvisionerConfig} {r : CreateRequest} {p : VolumeParameters} {d : Decision} {s s' : Cluster}

/-- The answer tells of the place. -/
theorem CreatedVolume.locates_createdVolume {inventory : List VolumeGroup} {w : LogicalVolume} {g : VolumeGroup}
    (hg : g ∈ inventory) (hd : d.IsIn g) (hgroup : w.spec.groupName = d.group)
    (hpool : w.poolName = d.thinPool.getD "") : (createdVolume r d).Locates inventory w := by
  obtain ⟨hname, hnode, hvg⟩ := hd
  have hne : Marks.vgNameKey ≠ Marks.thinPoolNameKey := by decide
  refine ⟨⟨g, hg, hname.trans hgroup.symm, by simp [hnode], ?_, ?_⟩, ?_⟩
  · simp [createdVolume, NameMap.get?_insert, hnode]
  · simp [createdVolume, NameMap.get?_insert, hne, hvg]
  · simp [createdVolume, NameMap.get?_insert, hpool]

/-- A volume that was asked for at a place is in the pool of the place. -/
theorem poolName_volumeSpec {w : LogicalVolume} (h : w.spec = volumeSpec r p d) : w.poolName = d.thinPool.getD "" := by
  rw [LogicalVolume.poolName, h]
  cases hp : d.thinPool <;> simp [volumeSpec, hp]

/-- **The answer tells where a new volume is.**  A request that succeeds answers with the place that was chosen for it.
A volume that was not there before is at that place.  One that was there before is as it was declared, and the answer
tells where it is if its group and its pool are those that were chosen. -/
theorem locates_of_created (cfg : ProvisionerConfig) {r : CreateRequest} {s s' : Cluster} {v : CreatedVolume}
    (h : ((Job.create r).work cfg).Progress (reporting fun _ => True) s (.done (.created (.ok v))) s') :
    ∃ p d w, VolumeParameters.ofMap r.parameters = .ok p ∧ place r p s.groups.values = .ok d ∧
      v = createdVolume r d ∧ s'.volumes.get? r.name = some w ∧
      (s.volumes.get? r.name = none → w.spec = volumeSpec r p d ∧ v.Locates s'.groups.values w) ∧
      ∀ w₀, s.volumes.get? r.name = some w₀ → w.spec = w₀.spec ∧
        (w.spec.groupName = d.group → w.poolName = d.thinPool.getD "" → v.Locates s'.groups.values w) := by
  obtain ⟨-, hkeeps⟩ := (Job.keeps_work_ok (by trivial)).progress trivial (fun _ _ _ _ => trivial) h
  obtain ⟨p, d, hprovided⟩ := hkeeps s' ((reporting _).refl s') trivial v rfl
  obtain ⟨w, hw, hd⟩ := Option.map_eq_some_iff.1 hprovided.stored
  obtain ⟨g, hg, hin⟩ := isIn_of_place hprovided.placed
  have hlocates (hgroup : w.spec.groupName = d.group) (hpool : w.poolName = d.thinPool.getD "") :
      v.Locates s'.groups.values w := by
    rw [hprovided.answer, hprovided.groups]
    exact CreatedVolume.locates_createdVolume hg hin hgroup hpool
  refine ⟨p, d, w, hprovided.parameters, hprovided.placed, hprovided.answer, hw, fun hnone => ?_, fun w₀ hw₀ => ?_⟩
  · rw [intended_of_none hnone] at hd
    have hspec : w.spec = volumeSpec r p d := congrArg (·.spec) hd
    exact ⟨hspec, hlocates (by rw [hspec]; rfl) (poolName_volumeSpec hspec)⟩
  · rw [intended, hw₀] at hd
    have hspec : w.spec = w₀.spec := congrArg (·.spec) hd
    exact ⟨hspec, hlocates⟩

namespace Sample

/-- A group on another node. -/
def otherGroup : VolumeGroup :=
  { metadata := { name := some "vg-2" }, spec := ⟨"more-data"⟩
    status := some ⟨[⟨"node-2"⟩], some ⟨"20Gi"⟩, none, []⟩ }

/-- A request for the volume in that group. -/
def otherRequest : CreateRequest :=
  { request with parameters := request.parameters.insert Marks.volumeGroupsKey "- name: vg-2\n" }

/-- What the first request has left, and the other group. -/
@[irreducible] def widened : Simulation :=
  { cluster := firstRun.2.cluster.intervene (.putVolumeGroup otherGroup) }

/-- The request for the volume in the other group. -/
@[irreducible] def otherRun : Job.Answer × Simulation :=
  Simulation.run .ofRoutine [] ((Job.create otherRequest).work {}) widened 0

/-- Whether a run that has ended with the volume locates it by its answer. -/
def located? (run : Job.Answer × Simulation) : Option Bool :=
  match run.1, run.2.cluster.volumes.get? "pvc-1" with
  | .created (.ok v), some w => some (v.Locates run.2.cluster.groups.values w)
  | _, _ => none

theorem exists_of_located? {run : Job.Answer × Simulation} {b : Bool} (h : located? run = some b) :
    ∃ v w, run.1 = .created (.ok v) ∧ run.2.cluster.volumes.get? "pvc-1" = some w ∧
      decide (v.Locates run.2.cluster.groups.values w) = b := by
  unfold located? at h
  split at h
  · next v w hv hw => exact ⟨v, w, hv, hw, Option.some.inj h⟩
  · simp at h

theorem located?_otherRun : located? otherRun = some false := by decide +kernel

end Sample

/-- The first request for the volume locates it. -/
theorem locates_of_created_first_run :
    ∃ v s' w, ((Job.create Sample.request).work {}).Progress (reporting fun _ => True) Sample.provisionable
        (.done (.created (.ok v))) s' ∧
      s'.volumes.get? "pvc-1" = some w ∧ v.Locates s'.groups.values w := by
  obtain ⟨v, hv⟩ := Sample.firstRun_succeeds
  have hrun : ((Job.create Sample.request).work {}).Progress (reporting fun _ => True) Sample.provisionable
      (.done Sample.firstRun.1) Sample.firstRun.2.cluster := by
    rw [Sample.firstRun]
    exact Simulation.progress_run _ _ _ { cluster := Sample.provisionable } 0
  rw [hv] at hrun
  obtain ⟨p, d, w, -, -, -, hw, hnew, -⟩ := locates_of_created {} hrun
  exact ⟨v, _, w, hrun, hw, (hnew (Sample.volumes_provisionable _)).2⟩

/-- A request for a volume that there is already, in another group, does not locate it. -/
theorem created_volume_is_elsewhere :
    ∃ (s s' : Cluster) (v : CreatedVolume) (w : LogicalVolume), s.Arises ∧
      ((Job.create Sample.otherRequest).work {}).Progress (reporting fun _ => False) s (.done (.created (.ok v))) s' ∧
      s'.volumes.get? Sample.otherRequest.name = some w ∧ ¬ v.Locates s'.groups.values w := by
  obtain ⟨v, w, hv, hw, hl⟩ := Sample.exists_of_located? Sample.located?_otherRun
  have hrun : ((Job.create Sample.otherRequest).work {}).Progress (reporting fun _ => False) Sample.widened.cluster
      (.done Sample.otherRun.1) Sample.otherRun.2.cluster := by
    rw [Sample.otherRun]
    exact Simulation.progress_run _ _ _ Sample.widened 0
  have harises : Sample.widened.cluster.Arises := by
    rw [Sample.widened]
    exact Sample.arises_firstRun.intervene (.putVolumeGroup Sample.otherGroup)
  rw [hv] at hrun
  exact ⟨_, _, v, w, harises, hrun, hw, of_decide_eq_false hl⟩

end LocalVolumes
