import LocalVolumes.Proofs.Cluster.Reporting
import LocalVolumes.Proofs.Provisioning
import LocalVolumes.Proofs.Shelter

/-!
# LocalVolumes.Proofs.Release — a release takes a volume away

A release reads a volume, takes the finalizer of the provisioner from it and deletes it.  If nobody writes the volume
between these calls and none of them fails on its way, no volume of the name is left, and nothing else has changed.
-/

namespace LocalVolumes

open Cluster Routine

variable {s s' : Cluster} {n : String} {on : String → Prop}

/-- A volume is gone, and nothing differs but it and what is reported on others. -/
structure Cluster.Freed (n : String) (on : String → Prop) (s s' : Cluster) : Prop
    extends Confined (· = n) on s s' where
  gone : s'.volumes.get? n = none

theorem Cluster.Freed.reports {s'' : Cluster} (h : Freed n on s s') (hr : OnlyReports on s' s'') : Freed n on s s'' :=
  ⟨h.toConfined.trans hr.confined, hr.get?_eq_none_iff.2 h.gone⟩

/-! ### Calls that do not fail on their way -/

theorem Cluster.Grants.getVolume (on : String → Prop) {r : Except Fault (Option LogicalVolume)} (hn : on n)
    (hb : ∀ v, s.volumes.get? n = some v → ∃ b, v.requestedBytes = .ok b) (hg : s.Grants (.getVolume n) r s') :
    r = .ok (s'.volumes.get? n) ∧ OnlyReports on s s' := by
  obtain ⟨t, fs, ha, rfl⟩ := hg
  have hs : Serves { s with failures := [] } (.getVolume n) r t := .inl ha
  obtain ⟨found, hfound⟩ := answer_getVolume (s := { s with failures := [] }) rfl hb
  obtain rfl : r = .ok found := (congrArg Prod.fst ha).symm.trans hfound
  have hplan : OnlyReports on s { s with failures := [] } := .of_rests ⟨s.version, [], Nat.le_refl _, rfl⟩
  have hback : OnlyReports on t { t with failures := fs } := .of_rests ⟨t.version, fs, Nat.le_refl _, rfl⟩
  exact ⟨congrArg _ hs.get?_of_getVolume.symm, (hplan.trans (hs.onlyReports_getVolume hn)).trans hback⟩

theorem Cluster.Grants.replaceVolume (on : String → Prop) {v stored : LogicalVolume} {r : Except Fault LogicalVolume}
    (hkey : Resource.key v = n) (hv : s.volumes.get? n = some stored) (hc : isCurrent stored v = true)
    (hg : s.Grants (.replaceVolume v) r s') :
    ∃ v', r = .ok v' ∧ v'.metadata.finalizerList = v.metadata.finalizerList ∧
      s'.volumes = settled s.volumes n v' ∧ Confined (· = n) on s s' := by
  obtain ⟨t, fs, ha, rfl⟩ := hg
  subst hkey
  obtain ⟨resized, ps, ha'⟩ := answer_replaceVolume (s := { s with failures := [] }) rfl hv hc
  rw [ha', Prod.mk.injEq] at ha
  obtain ⟨rfl, rfl⟩ := ha
  exact ⟨_, rfl, rfl, rfl, .of_volumes rfl rfl rfl fun k hk => get?_settled_ne _ hk⟩

theorem Cluster.Grants.deleteVolume (on : String → Prop) {r : Except Fault Unit} (hg : s.Grants (.deleteVolume n) r s') :
    s'.volumes = markDeleted s.volumes n s.nextVersion s.now ∧ Confined (· = n) on s s' := by
  obtain ⟨t, fs, ha, rfl⟩ := hg
  rw [answer_deleteVolume rfl, Prod.mk.injEq] at ha
  obtain ⟨rfl, rfl⟩ := ha
  exact ⟨rfl, .of_volumes rfl rfl rfl fun k hk => get?_markDeleted_ne hk⟩

namespace Provisioning

/-- A volume that has its name and no finalizer but that of the provisioner. -/
structure Releasable (n : String) (v : LogicalVolume) : Prop where
  key : Resource.key v = n
  finalizers : v.metadata.finalizerList ⊆ [Marks.provisionerFinalizer]

theorem releasable_declared {v : LogicalVolume} : Releasable n v.declared ↔ Releasable n v :=
  ⟨fun ⟨hk, hf⟩ => ⟨hk, hf⟩, fun ⟨hk, hf⟩ => ⟨hk, hf⟩⟩

/-- Whether a volume can be released depends on what is declared. -/
theorem Releasable.of_onlyReports (h : ∀ v, s.volumes.get? n = some v → Releasable n v) (hr : OnlyReports on s s')
    {v : LogicalVolume} (hv : s'.volumes.get? n = some v) : Releasable n v := by
  obtain ⟨w, hw, he⟩ := hr.exists_declared hv
  exact releasable_declared.1 (he ▸ releasable_declared.2 (h w hw))

/-! ### The release -/

/-- The deletion of a volume without finalizers, as the last part of a release. -/
theorem carries_deleteVolume {s₀ : Cluster} (hs : Confined (· = n) on s₀ s)
    (hbare : ∀ v, s.volumes.get? n = some v → v.metadata.finalizerList = []) :
    (Routine.call (.deleteVolume n)).Carries (fun _ => True) (reporting on) (fun _ => Freed n on s₀) s := by
  refine Carries.granted (f := Routine.done) fun r s₁ hg s₂ hr => ?_
  obtain ⟨hvols, hconf⟩ := hg.deleteVolume on
  have hfreed : Freed n on s₀ s₁ := ⟨hs.trans hconf, hvols ▸ get?_markDeleted_eq_none hbare⟩
  exact hfreed.reports hr

/-- What is done with a volume that was found. -/
theorem carries_releaseFound {s₀ : Cluster} (hs : Confined (· = n) on s₀ s) {v : LogicalVolume}
    (hv : s.volumes.get? n = some v) (h : Releasable n v) :
    (releaseFound n v).Carries (fun _ => True) (reporting on) (fun _ => Freed n on s₀) s := by
  unfold releaseFound
  split
  · next stripped hst =>
    obtain rfl := congrArg Prod.fst hst
    have hkey : Resource.key v.removeFinalizer.1 = n := h.key
    refine Carries.granted fun r s₁ hg => ?_
    obtain ⟨v', rfl, hfin, hvols, hconf⟩ := hg.replaceVolume on hkey hv (isCurrent_self v)
    refine carries_deleteVolume (hs.trans hconf) fun w hw => ?_
    rw [hvols] at hw
    rw [get?_settled_self hw, hfin]
    exact Metadata.finalizerList_removeFinalizers h.finalizers
  · next stripped hst =>
    refine carries_deleteVolume hs fun w hw => ?_
    obtain rfl := Option.some.inj (hv.symm.trans hw)
    exact Metadata.finalizerList_of_hasAnyFinalizer h.finalizers (congrArg Prod.snd hst)

/-- **A release that nobody disturbs takes the volume away**, and touches nothing else. -/
theorem carries_release (h : ∀ v, s.volumes.get? n = some v → Releasable n v)
    (hb : ∀ v, s.volumes.get? n = some v → ∃ b, v.requestedBytes = .ok b) :
    (release n).Carries (fun _ => True) (reporting on) (fun _ => Freed n on s) s := by
  rw [release_eq]
  refine Carries.granted fun r s₁ hg => ?_
  obtain ⟨rfl, hr⟩ := hg.getVolume (fun k => on k ∨ k = n) (.inr rfl) hb
  cases hv : s₁.volumes.get? n with
  | none => exact fun s₂ hr₂ => Freed.reports ⟨hr.confined.narrow, hv⟩ hr₂
  | some v => exact carries_releaseFound hr.confined.narrow hv (.of_onlyReports h hr hv)

end Provisioning

end LocalVolumes
