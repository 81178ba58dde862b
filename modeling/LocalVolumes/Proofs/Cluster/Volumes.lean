import LocalVolumes.Proofs.Cluster.Versions

/-!
# LocalVolumes.Proofs.Cluster.Volumes — which volumes a step keeps

What each call on volumes, and each report of a node, does to the volumes that are stored: it keeps them all, or all
but the one that it is about.
-/

namespace LocalVolumes

open Cluster

/-- A volume of a name is stored. -/
def Stored (n : String) (s : Cluster) : Prop := ∃ v, s.volumes.get? n = some v

/-- Volumes are stored under their names with versions that were given, and one that is being deleted is held back by
a finalizer. -/
structure Anchored (s : Cluster) : Prop where
  keyed : Keyed s.volumes
  versioned : s.Versioned
  terminating : ∀ n v, s.volumes.get? n = some v → v.metadata.isBeingDeleted = true →
    v.metadata.finalizerList ≠ []

/-- Versions advance, and every volume stays but those of some names. -/
def Retains (but : String → Prop) (s s' : Cluster) : Prop :=
  s.Advances s' ∧ ∀ n, ¬ but n → Stored n s → Stored n s'

/-- Every volume stays. -/
abbrev RetainsAll : Cluster → Cluster → Prop := Retains (fun _ => False)

variable {s s' : Cluster} {n : String} {but : String → Prop}

theorem Retains.refl (but : String → Prop) (s : Cluster) : Retains but s s := ⟨.refl s, fun _ _ h => h⟩

theorem Retains.mono {but' : String → Prop} (h : Retains but s s') (hb : ∀ n, but n → but' n) :
    Retains but' s s' := ⟨h.1, fun n hn => h.2 n fun hb' => hn (hb n hb')⟩

/-! ### Steps -/

/-- What leaves the volumes alone keeps them anchored. -/
theorem Anchored.of_volumes (h : Anchored s) (hv : s.version ≤ s'.version) (he : s'.volumes = s.volumes) :
    Anchored s' ∧ RetainsAll s s' := by
  have ha : s.Advances s' := .of_volumes hv he
  refine ⟨⟨he ▸ h.keyed, ha.versioned h.versioned, he ▸ h.terminating⟩, ha, fun n _ hs => ?_⟩
  obtain ⟨v, hv⟩ := hs
  exact ⟨v, he ▸ hv⟩

theorem Anchored.rests (h : Anchored s) (hr : s.Rests s') : Anchored s' ∧ RetainsAll s s' :=
  h.of_volumes hr.version_le hr.volumes

/-- A write of one volume. -/
theorem Anchored.write (h : Anchored s) (ha : s.Advances s')
    (hne : ∀ k, k ≠ n → s'.volumes.get? k = s.volumes.get? k)
    (hn : ∀ v, s'.volumes.get? n = some v → Resource.key v = n ∧
      (v.metadata.isBeingDeleted = true → v.metadata.finalizerList ≠ [])) :
    Anchored s' ∧ Retains (· = n) s s' := by
  refine ⟨⟨fun k v hk => ?_, ha.versioned h.versioned, fun k v hk => ?_⟩, ha, fun k hk hs => ?_⟩
  · by_cases hkn : k = n
    · subst hkn
      exact (hn v hk).1
    · exact h.keyed k v (hne k hkn ▸ hk)
  · by_cases hkn : k = n
    · subst hkn
      exact (hn v hk).2
    · exact h.terminating k v (hne k hkn ▸ hk)
  · obtain ⟨v, hv⟩ := hs
    exact ⟨v, hne k hk ▸ hv⟩

/-- A write after which the volume is there takes no volume away. -/
theorem Retains.all (h : Retains (· = n) s s') (hs : Stored n s') : RetainsAll s s' := by
  refine ⟨h.1, fun k _ hk => ?_⟩
  by_cases hkn : k = n
  · exact hkn ▸ hs
  · exact h.2 k hkn hk

theorem Anchored.listVolumeGroups (h : Anchored s) {r : Except Fault (List VolumeGroup)}
    (hs : s.Serves .listVolumeGroups r s') : Anchored s' ∧ RetainsAll s s' := by
  rcases hs.listVolumeGroups with hf | ⟨-, rfl⟩
  · exact h.rests hf.2
  · exact h.of_volumes (Nat.le_refl _) rfl

theorem Anchored.getVolumeGroup (h : Anchored s) {name : String} {r : Except Fault (Option VolumeGroup)}
    (hs : s.Serves (.getVolumeGroup name) r s') : Anchored s' ∧ RetainsAll s s' := by
  rcases hs.getVolumeGroup with hf | ⟨-, rfl⟩
  · exact h.rests hf.2
  · exact h.of_volumes (Nat.le_refl _) rfl

theorem Anchored.createVolume (h : Anchored s) {v : LogicalVolume} {r : Except Fault LogicalVolume}
    (hs : s.Serves (.createVolume v) r s') : Anchored s' ∧ RetainsAll s s' := by
  have ha := Advances.serves hs
  rcases hs.createVolume with hf | ⟨hnone, -, rfl⟩
  · exact h.rests hf.2
  · obtain ⟨h', hr⟩ := h.write (n := Resource.key v) ha (fun k hk => by simp [NameMap.get?_insert, hk])
      fun a ha => by
        simp only [NameMap.get?_insert, if_true, Option.some.injEq] at ha
        subst ha
        exact ⟨key_stamped .., fun hd => absurd hd Bool.false_ne_true⟩
    exact ⟨h', hr.all ⟨_, by simp [NameMap.get?_insert]; rfl⟩⟩

/-- A volume as a node reports on it has the metadata that it had but for its version. -/
theorem Anchored.report (h : Anchored s) {v : LogicalVolume} {status : VolumeStatus} (hv : s.volumes.get? n = some v)
    (ha : s.Advances s') (he : s'.volumes = s.volumes.insert n (reported v status s.nextVersion)) :
    Anchored s' ∧ RetainsAll s s' := by
  obtain ⟨h', hr⟩ := h.write (n := n) ha (fun k hk => by simp [he, NameMap.get?_insert, hk]) fun a ha => by
    simp only [he, NameMap.get?_insert, if_true, Option.some.injEq] at ha
    subst ha
    exact ⟨h.keyed n v hv, h.terminating n v hv⟩
  exact ⟨h', hr.all ⟨_, by rw [he, NameMap.get?_insert, if_pos rfl]⟩⟩

theorem Anchored.getVolume (h : Anchored s) {r : Except Fault (Option LogicalVolume)}
    (hs : s.Serves (.getVolume n) r s') : Anchored s' ∧ RetainsAll s s' := by
  have ha := Advances.serves hs
  rcases hs.getVolume with hf | ⟨-, rfl, rfl⟩ | ⟨v, ver, vols, ps, hv, rfl, hle, -, hvols⟩
  · exact h.rests hf.2
  · exact h.of_volumes (Nat.le_refl _) rfl
  · rcases hvols with rfl | ⟨status, rfl, rfl⟩
    · exact h.of_volumes hle rfl
    · exact h.report hv ha rfl

/-- A volume that is seen is there. -/
theorem Cluster.Serves.stored {v : LogicalVolume} (hs : s.Serves (.getVolume n) (.ok (some v)) s') :
    s'.volumes.get? n = some v := hs.get?_of_getVolume

theorem Anchored.replaceVolume (h : Anchored s) {v : LogicalVolume} {r : Except Fault LogicalVolume}
    (hn : Resource.key v = n) (hs : s.Serves (.replaceVolume v) r s') :
    (Anchored s' ∧ Retains (· = n) s s') ∧
      ((∀ w, s.volumes.get? n = some w → isCurrent w v = true →
        v.metadata.finalizerList = w.metadata.finalizerList) → RetainsAll s s') := by
  subst hn
  have ha := Advances.serves hs
  rcases hs.replaceVolume with hf | ⟨w, resized, ps, hw, hc, -, rfl⟩
  · obtain ⟨h', hr⟩ := h.rests hf.2
    exact ⟨⟨h', hr.mono fun _ hfalse => hfalse.elim⟩, fun _ => hr⟩
  · obtain ⟨h', hr⟩ := h.write (n := Resource.key v) ha (fun k hk => get?_settled_ne _ hk) fun a ha => by
      refine ⟨?_, ?_⟩
      · rw [get?_settled_self ha]
        exact key_stamped ..
      · intro hd he
        have hself := get?_settled_self ha
        subst hself
        simp [settled, Resource.metadata, hd, he, NameMap.get?_erase] at ha
    refine ⟨⟨h', hr⟩, fun hkeep => hr.all ?_⟩
    have hfin := hkeep w hw hc
    by_cases hd : w.metadata.isBeingDeleted = true
    · refine ⟨_, get?_settled_of_finalizer ?_⟩
      intro he
      exact h.terminating _ w hw hd (hfin ▸ he)
    · exact ⟨_, get?_settled_of_live (Bool.of_not_eq_true hd)⟩

theorem Anchored.deleteVolume (h : Anchored s) {r : Except Fault Unit}
    (hs : s.Serves (.deleteVolume n) r s') : Anchored s' ∧ Retains (· = n) s s' := by
  have ha := Advances.serves hs
  rcases hs.deleteVolume with hf | ⟨-, rfl⟩
  · obtain ⟨h', hr⟩ := h.rests hf.2
    exact ⟨h', hr.mono fun _ hfalse => hfalse.elim⟩
  · refine h.write ha (fun k hk => get?_markDeleted_ne hk) fun a ha => ?_
    obtain ⟨b, hb, hne, ⟨-, rfl⟩ | ⟨-, rfl⟩⟩ := get?_markDeleted_self ha
    · exact ⟨h.keyed n _ hb, fun _ => hne⟩
    · exact ⟨(key_stamped ..).trans (h.keyed n b hb), fun _ => hne⟩

/-! ### Reports -/

/-- What the nodes do: they report on volumes, in their own time or when a volume is looked at. -/
inductive Reports : Cluster → Cluster → Prop
  | report {s : Cluster} (n : String) (status : VolumeStatus) : Reports s (s.intervene (.reportVolume n status))
  | setConvergence {s : Cluster} (c : Option Convergence) : Reports s (s.intervene (.setConvergence c))

theorem Anchored.reports (h : Anchored s) (hs : Reports s s') : Anchored s' ∧ RetainsAll s s' := by
  cases hs with
  | report n status =>
    have ha : s.Advances (s.intervene (.reportVolume n status)) := .intervene _
    cases hv : s.volumes.get? n with
    | none => exact h.of_volumes ha.1 (by simp [intervene, bump, hv])
    | some v => exact h.report hv ha (by simp [intervene, bump, hv]; rfl)
  | setConvergence c => exact h.of_volumes (Nat.le_refl _) rfl

end LocalVolumes
