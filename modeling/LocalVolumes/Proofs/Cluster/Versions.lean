import LocalVolumes.Proofs.Cluster.Identity
import LocalVolumes.Proofs.Cluster.Renewal

/-!
# LocalVolumes.Proofs.Cluster.Versions — the versions of volumes

Every write gives its object a version that no object had before.  So whoever has read a volume, and later meets a
volume of that name with the same version, meets the same volume.
-/

namespace LocalVolumes.Cluster

/-- A volume carries a version that was given after the first and until the second of two. -/
def GivenBetween (i j : Nat) (v : LogicalVolume) : Prop :=
  ∃ k, i < k ∧ k ≤ j ∧ v.metadata.resourceVersion = some (toString k)

/-- Every volume carries a version that was given. -/
def Versioned (s : Cluster) : Prop :=
  ∀ n v, s.volumes.get? n = some v → GivenBetween 0 s.version v

/-- Every volume was there before or has a version that was given since. -/
def Advances (s s' : Cluster) : Prop :=
  s.version ≤ s'.version ∧
    ∀ n v, s'.volumes.get? n = some v → s.volumes.get? n = some v ∨ GivenBetween s.version s'.version v

variable {s s' s'' : Cluster}

theorem Advances.refl (s : Cluster) : s.Advances s := ⟨Nat.le_refl _, fun _ _ h => .inl h⟩

theorem Advances.trans (h : s.Advances s') (h' : s'.Advances s'') : s.Advances s'' :=
  ⟨Nat.le_trans h.1 h'.1, Renewed.trans h.1 h'.1 h.2 h'.2⟩

theorem Advances.versioned (h : s.Advances s') (hv : s.Versioned) : s'.Versioned := Renewed.dated h.1 h.2 hv

/-- **A volume is known by its version.** -/
theorem Advances.eq_of_version (h : s.Advances s') (hv : s.Versioned) {n : String} {v v' : LogicalVolume}
    (hn : s.volumes.get? n = some v) (hn' : s'.volumes.get? n = some v')
    (he : v'.metadata.resourceVersion = v.metadata.resourceVersion) : v' = v :=
  Renewed.eq_of_version h.2 hv hn hn' he

/-! ### Steps -/

theorem Advances.of_volumes (hv : s.version ≤ s'.version) (h : s'.volumes = s.volumes) : s.Advances s' :=
  ⟨hv, fun _ _ hn => .inl (h ▸ hn)⟩

theorem Makes.advances {made : Option Object} (h : Makes made s s') : s.Advances s' := by
  refine ⟨h.version_le, fun n v hv => (h.held n (.volume v) hv).imp id fun hmade => ?_⟩
  obtain ⟨hlt, hr⟩ := h.dated _ hmade
  exact ⟨s.version + 1, Nat.lt_succ_self _, hlt, hr⟩

theorem Advances.serves {c : Call} {r : c.Result} (hs : s.Serves c r s') : s.Advances s' := by
  obtain ⟨made, hm, -⟩ := hs.makesShown
  exact hm.advances

theorem Advances.intervene (i : Intervention) : s.Advances (s.intervene i) := by
  obtain ⟨made, hm⟩ := makes_intervene s i
  exact hm.advances

/-- **Every volume carries a version that was given.** -/
theorem Arises.versioned (h : s.Arises) : s.Versioned := by
  induction h with
  | empty => exact fun n v h => by simp at h
  | answer c _ ih => exact (Advances.serves (.inl rfl)).versioned ih
  | intervene i _ ih => exact (Advances.intervene i).versioned ih

end LocalVolumes.Cluster
