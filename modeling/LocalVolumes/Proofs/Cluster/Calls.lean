import LocalVolumes.Proofs.Cluster.Objects

/-!
# LocalVolumes.Proofs.Cluster.Calls — what a cluster may answer

`Serves` says what may come of a call: the cluster answers it by itself, or the call fails on its way and the cluster
never sees it.  For each call of a pass there is one lemma that tells everything that its answer can be.
-/

namespace LocalVolumes.Cluster

/-- The answer to a call, and the cluster after it: what the cluster answers by itself, or a failure that leaves it
as it was. -/
def Serves (s : Cluster) (c : Call) (r : c.Result) (s' : Cluster) : Prop :=
  s.answer c = (r, s') ∨ (∃ e, r = .error e) ∧ s' = s

/-- Nothing differs but the last version and the planned failures. -/
def Rests (s s' : Cluster) : Prop :=
  ∃ v fs, s.version ≤ v ∧ s' = { s with version := v, failures := fs }

/-- A call failed, and no object was touched. -/
def Fails (s : Cluster) {ε α : Type} (r : Except ε α) (s' : Cluster) : Prop :=
  (∃ e, r = .error e) ∧ s.Rests s'

variable {s s' : Cluster}

theorem Rests.refl (s : Cluster) : s.Rests s := ⟨s.version, s.failures, Nat.le_refl _, rfl⟩

theorem Rests.storageClasses (h : s.Rests s') : s'.storageClasses = s.storageClasses := by
  obtain ⟨v, fs, -, rfl⟩ := h
  rfl

theorem Rests.localClasses (h : s.Rests s') : s'.localClasses = s.localClasses := by
  obtain ⟨v, fs, -, rfl⟩ := h
  rfl

theorem Rests.volumes (h : s.Rests s') : s'.volumes = s.volumes := by
  obtain ⟨v, fs, -, rfl⟩ := h
  rfl

theorem Rests.version_le (h : s.Rests s') : s.version ≤ s'.version := by
  obtain ⟨v, fs, hv, rfl⟩ := h
  exact hv

/-! ### Writes -/

/-- The text of the version that the next write gives. -/
def nextVersion (s : Cluster) : String := s.bump.versionText

section Write

variable {α : Type} {op : Operation}

theorem attempt_cases {act : Cluster → Except Fault α × Cluster} {r : Except Fault α}
    (h : attempt op s act = (r, s')) : s.Fails r s' ∨ act s = (r, s') := by
  unfold attempt at h
  split at h
  · next e fs _ =>
    rw [Prod.mk.injEq] at h
    obtain ⟨rfl, rfl⟩ := h
    exact .inl ⟨⟨e, rfl⟩, s.version, fs, Nat.le_refl _, rfl⟩
  · exact .inr h

theorem write_cases {act : Cluster → Except Fault (α × Cluster)} {r : Except Fault α}
    (h : write op s act = (r, s')) :
    s.Fails r s' ∨
      ∃ a t, act s.bump = .ok (a, t) ∧ r = .ok a ∧ s' = { t with journal := t.journal ++ [op] } := by
  rcases attempt_cases h with h | h
  · exact .inl h
  · split at h
    · next e _ =>
      rw [Prod.mk.injEq] at h
      obtain ⟨rfl, rfl⟩ := h
      exact .inl ⟨⟨e, rfl⟩, s.version + 1, s.failures, Nat.le_succ _, rfl⟩
    · next a t hact =>
      rw [Prod.mk.injEq] at h
      obtain ⟨rfl, rfl⟩ := h
      exact .inr ⟨a, t, hact, rfl, rfl⟩

/-- A write that makes one object and the table with it. -/
theorem write_object_cases (put : NameMap α → Cluster → Cluster)
    {object : Cluster → Except Fault (α × NameMap α)} {r : Except Fault α}
    (h : write op s (fun s => do
      let (a, m) ← object s
      .ok (a, put m s)) = (r, s')) :
    s.Fails r s' ∨
      ∃ a m, object s.bump = .ok (a, m) ∧ r = .ok a ∧
        s' = { put m s.bump with journal := (put m s.bump).journal ++ [op] } := by
  rcases write_cases h with h | ⟨a, t, hact, rfl, rfl⟩
  · exact .inl h
  · obtain ⟨⟨b, m⟩, ho, hact⟩ := Except.eq_ok_of_bind hact
    cases hact
    exact .inr ⟨_, m, ho, rfl, rfl⟩

end Write

/-- A failure on the way is a failure. -/
theorem Serves.answered {c : Call} {r : c.Result} (h : s.Serves c r s') :
    s.Fails r s' ∨ s.answer c = (r, s') := by
  rcases h with h | ⟨he, rfl⟩
  · exact .inr h
  · exact .inl ⟨he, .refl _⟩

/-! ### Reads -/

theorem Serves.listStorageClasses {r : Except Fault (List StorageClass)}
    (h : s.Serves .listStorageClasses r s') :
    s.Fails r s' ∨ r = .ok s.storageClasses.values ∧ s' = s := by
  rcases h.answered with h | h
  · exact .inl h
  · rcases attempt_cases h with h | h
    · exact .inl h
    · rw [Prod.mk.injEq] at h
      exact .inr ⟨h.1.symm, h.2.symm⟩

theorem Serves.listVolumeGroups {r : Except Fault (List VolumeGroup)} (h : s.Serves .listVolumeGroups r s') :
    s.Fails r s' ∨ r = .ok s.groups.values ∧ s' = s := by
  rcases h.answered with h | h
  · exact .inl h
  · rcases attempt_cases h with h | h
    · exact .inl h
    · rw [Prod.mk.injEq] at h
      exact .inr ⟨h.1.symm, h.2.symm⟩

theorem Serves.getStorageClass {name : String} {r : Except Fault (Option StorageClass)}
    (h : s.Serves (.getStorageClass name) r s') :
    s.Fails r s' ∨ r = .ok (s.storageClasses.get? name) ∧ s' = s := by
  rcases h.answered with h | h
  · exact .inl h
  · rw [answer, Prod.mk.injEq] at h
    exact .inr ⟨h.1.symm, h.2.symm⟩

theorem Serves.listLocalClasses {r : Except Fault (List LocalClass)} (h : s.Serves .listLocalClasses r s') :
    s.Fails r s' ∨ r = .ok s.localClasses.values ∧ s' = s := by
  rcases h.answered with h | h
  · exact .inl h
  · rw [answer, Prod.mk.injEq] at h
    exact .inr ⟨h.1.symm, h.2.symm⟩

theorem Serves.getVolumeGroup {name : String} {r : Except Fault (Option VolumeGroup)}
    (h : s.Serves (.getVolumeGroup name) r s') :
    s.Fails r s' ∨ r = .ok (s.groups.get? name) ∧ s' = s := by
  rcases h.answered with h | h
  · exact .inl h
  · rw [answer, Prod.mk.injEq] at h
    exact .inr ⟨h.1.symm, h.2.symm⟩

theorem Serves.getLocalClass {name : String} {r : Except Fault (Option LocalClass)}
    (h : s.Serves (.getLocalClass name) r s') :
    s.Fails r s' ∨ r = .ok (s.localClasses.get? name) ∧ s' = s := by
  rcases h.answered with h | h
  · exact .inl h
  · rw [answer, Prod.mk.injEq] at h
    exact .inr ⟨h.1.symm, h.2.symm⟩

/-! ### Storage classes -/

theorem Serves.createStorageClass {c : StorageClass} {r : Except Fault StorageClass}
    (h : s.Serves (.createStorageClass c) r s') :
    s.Fails r s' ∨
      s.storageClasses.get? (Resource.key c) = none ∧ r = .ok (stamped c s.nextVersion none) ∧
        s' = { s.bump with
          storageClasses := s.storageClasses.insert (Resource.key c) (stamped c s.nextVersion none)
          journal := s.journal ++ [.createStorageClass (Resource.key c)] } := by
  rcases h.answered with h | h
  · exact .inl h
  · rw [answer] at h
    rcases write_object_cases (fun m s => { s with storageClasses := m }) h with h | ⟨b, m, hb, rfl, rfl⟩
    · exact .inl h
    · obtain ⟨hnone, rfl, rfl⟩ := createObject_eq_ok_iff.1 hb
      exact .inr ⟨hnone, rfl, rfl⟩

theorem Serves.replaceStorageClass {c : StorageClass} {r : Except Fault StorageClass}
    (h : s.Serves (.replaceStorageClass c) r s') :
    s.Fails r s' ∨
      ∃ stored, s.storageClasses.get? (Resource.key c) = some stored ∧ isCurrent stored c = true ∧
        let c' := stamped c s.nextVersion stored.metadata.deletionTimestamp
        r = .ok c' ∧
          s' = { s.bump with
            storageClasses := settled s.storageClasses (Resource.key c) c'
            journal := s.journal ++ [.replaceStorageClass (Resource.key c)] } := by
  rcases h.answered with h | h
  · exact .inl h
  · rw [answer] at h
    rcases write_object_cases (fun m s => { s with storageClasses := m }) h with h | ⟨b, m, hb, rfl, rfl⟩
    · exact .inl h
    · obtain ⟨stored, hs, hc, rfl, rfl⟩ := replaceObject_eq_ok_iff.1 hb
      exact .inr ⟨stored, hs, hc, rfl, rfl⟩

theorem Serves.deleteStorageClass {name : String} {r : Except Fault Unit}
    (h : s.Serves (.deleteStorageClass name) r s') :
    s.Fails r s' ∨
      r = .ok () ∧
        s' = { s.bump with
          storageClasses := markDeleted s.storageClasses name s.nextVersion s.now
          journal := s.journal ++ [.deleteStorageClass name] } := by
  rcases h.answered with h | h
  · exact .inl h
  · rw [answer] at h
    rcases write_cases h with h | ⟨b, t, hact, rfl, rfl⟩
    · exact .inl h
    · simp only [Except.ok.injEq, Prod.mk.injEq] at hact
      obtain ⟨-, rfl⟩ := hact
      exact .inr ⟨rfl, rfl⟩

/-! ### Local classes -/

theorem Serves.replaceLocalClass {c : LocalClass} {r : Except Fault LocalClass}
    (h : s.Serves (.replaceLocalClass c) r s') :
    s.Fails r s' ∨
      ∃ stored, s.localClasses.get? (Resource.key c) = some stored ∧ isCurrent stored c = true ∧
        let c' := stamped (keepClassStatus stored c) s.nextVersion stored.metadata.deletionTimestamp
        r = .ok c' ∧
          s' = { s.bump with
            localClasses := settled s.localClasses (Resource.key c) c'
            journal := s.journal ++ [.replaceLocalClass (Resource.key c)] } := by
  rcases h.answered with h | h
  · exact .inl h
  · rw [answer] at h
    rcases write_object_cases (fun m s => { s with localClasses := m }) h with h | ⟨b, m, hb, rfl, rfl⟩
    · exact .inl h
    · obtain ⟨stored, hs, hc, rfl, rfl⟩ := replaceObject_eq_ok_iff.1 hb
      exact .inr ⟨stored, hs, hc, rfl, rfl⟩

theorem Serves.replaceLocalClassStatus {c : LocalClass} {r : Except Fault LocalClass}
    (h : s.Serves (.replaceLocalClassStatus c) r s') :
    s.Fails r s' ∨
      ∃ stored, s.localClasses.get? (Resource.key c) = some stored ∧ isCurrent stored c = true ∧
        let c' := stamped (takeClassStatus stored c) s.nextVersion stored.metadata.deletionTimestamp
        r = .ok c' ∧
          s' = { s.bump with
            localClasses := settled s.localClasses (Resource.key c) c'
            journal := s.journal ++ [.replaceLocalClassStatus (Resource.key c)] } := by
  rcases h.answered with h | h
  · exact .inl h
  · rw [answer] at h
    rcases write_object_cases (fun m s => { s with localClasses := m }) h with h | ⟨b, m, hb, rfl, rfl⟩
    · exact .inl h
    · obtain ⟨stored, hs, hc, rfl, rfl⟩ := replaceObject_eq_ok_iff.1 hb
      exact .inr ⟨stored, hs, hc, rfl, rfl⟩

/-! ### Volumes -/

theorem Serves.createVolume {v : LogicalVolume} {r : Except Fault LogicalVolume}
    (h : s.Serves (.createVolume v) r s') :
    s.Fails r s' ∨
      s.volumes.get? (Resource.key v) = none ∧ r = .ok (stamped v s.nextVersion none) ∧
        s' = { s.bump with
          volumes := s.volumes.insert (Resource.key v) (stamped v s.nextVersion none)
          polls := s.polls.erase (Resource.key v)
          journal := s.journal ++ [.createVolume (Resource.key v)] } := by
  rcases h.answered with h | h
  · exact .inl h
  · rw [answer] at h
    rcases write_cases h with h | ⟨b, t, hact, rfl, rfl⟩
    · exact .inl h
    · obtain ⟨⟨b, m⟩, hb, hact⟩ := Except.eq_ok_of_bind hact
      obtain ⟨hnone, rfl, rfl⟩ := createObject_eq_ok_iff.1 hb
      simp only [Except.ok.injEq, Prod.mk.injEq, key_stamped] at hact
      obtain ⟨rfl, rfl⟩ := hact
      exact .inr ⟨hnone, rfl, rfl⟩

/-- A replacement that succeeds, with whether it asks for another size. -/
theorem Serves.replaceVolume_isResized {v : LogicalVolume} {r : Except Fault LogicalVolume}
    (h : s.Serves (.replaceVolume v) r s') :
    s.Fails r s' ∨
      ∃ stored ps, s.volumes.get? (Resource.key v) = some stored ∧ isCurrent stored v = true ∧
        let v' := stamped (keepVolumeStatus (isResized s.volumes v) stored v) s.nextVersion
          stored.metadata.deletionTimestamp
        r = .ok v' ∧
          s' = { s.bump with
            volumes := settled s.volumes (Resource.key v) v'
            polls := ps
            journal := s.journal ++ [.replaceVolume (Resource.key v)] } := by
  rcases h.answered with h | h
  · exact .inl h
  · rw [answer] at h
    rcases write_cases h with h | ⟨b, t, hact, rfl, rfl⟩
    · exact .inl h
    · obtain ⟨⟨b, m⟩, hb, hact⟩ := Except.eq_ok_of_bind hact
      obtain ⟨stored, hs, hc, rfl, rfl⟩ := replaceObject_eq_ok_iff.1 hb
      simp only [Except.ok.injEq, Prod.mk.injEq] at hact
      obtain ⟨rfl, rfl⟩ := hact
      exact .inr ⟨stored, _, hs, hc, rfl, rfl⟩

theorem Serves.replaceVolume {v : LogicalVolume} {r : Except Fault LogicalVolume}
    (h : s.Serves (.replaceVolume v) r s') :
    s.Fails r s' ∨
      ∃ stored resized ps, s.volumes.get? (Resource.key v) = some stored ∧ isCurrent stored v = true ∧
        let v' := stamped (keepVolumeStatus resized stored v) s.nextVersion stored.metadata.deletionTimestamp
        r = .ok v' ∧
          s' = { s.bump with
            volumes := settled s.volumes (Resource.key v) v'
            polls := ps
            journal := s.journal ++ [.replaceVolume (Resource.key v)] } :=
  h.replaceVolume_isResized.imp_right fun ⟨stored, ps, hrest⟩ => ⟨stored, _, ps, hrest⟩

theorem Serves.deleteVolume {name : String} {r : Except Fault Unit} (h : s.Serves (.deleteVolume name) r s') :
    s.Fails r s' ∨
      r = .ok () ∧
        s' = { s.bump with
          volumes := markDeleted s.volumes name s.nextVersion s.now
          polls := s.polls.erase name
          journal := s.journal ++ [.deleteVolume name] } := by
  rcases h.answered with h | h
  · exact .inl h
  · rw [answer] at h
    rcases write_cases h with h | ⟨b, t, hact, rfl, rfl⟩
    · exact .inl h
    · simp only [Except.ok.injEq, Prod.mk.injEq] at hact
      obtain ⟨-, rfl⟩ := hact
      exact .inr ⟨rfl, rfl⟩

/-- A volume as a node reports on it. -/
def reported (v : LogicalVolume) (status : VolumeStatus) (version : String) : LogicalVolume :=
  { v with status := some status, metadata := { v.metadata with resourceVersion := some version } }

/-- A look lets a volume converge at most: then it has a status, and a version that was not there before. -/
theorem pollVolume_cases {name : String} {v : LogicalVolume} {r : Except Fault Unit}
    (h : pollVolume name v s = (r, s')) :
    ∃ ver vols ps, s' = { s with version := ver, volumes := vols, polls := ps } ∧ s.version ≤ ver ∧
      (vols = s.volumes ∨
        ∃ status, vols = s.volumes.insert name (reported v status s.nextVersion) ∧ ver = s.version + 1) := by
  unfold pollVolume at h
  split at h
  · rw [Prod.mk.injEq] at h
    obtain ⟨-, rfl⟩ := h
    exact ⟨_, _, _, rfl, Nat.le_refl _, .inl rfl⟩
  · dsimp only at h
    split at h
    · rw [Prod.mk.injEq] at h
      obtain ⟨-, rfl⟩ := h
      exact ⟨_, _, _, rfl, Nat.le_refl _, .inl rfl⟩
    · split at h
      · rw [Prod.mk.injEq] at h
        obtain ⟨-, rfl⟩ := h
        exact ⟨_, _, _, rfl, Nat.le_succ _, .inl rfl⟩
      · rw [Prod.mk.injEq] at h
        obtain ⟨-, rfl⟩ := h
        exact ⟨_, _, _, rfl, Nat.le_succ _, .inr ⟨_, rfl, rfl⟩⟩

theorem Serves.getVolume {name : String} {r : Except Fault (Option LogicalVolume)}
    (h : s.Serves (.getVolume name) r s') :
    s.Fails r s' ∨
      s.volumes.get? name = none ∧ r = .ok none ∧ s' = s ∨
      ∃ v ver vols ps, s.volumes.get? name = some v ∧
        s' = { s with version := ver, volumes := vols, polls := ps } ∧ s.version ≤ ver ∧
        ((∃ e, r = .error e) ∨ r = .ok (vols.get? name)) ∧
        (vols = s.volumes ∨
          ∃ status, vols = s.volumes.insert name (reported v status s.nextVersion) ∧ ver = s.version + 1) := by
  rcases h.answered with h | h
  · exact .inl h
  · rw [answer] at h
    rcases attempt_cases h with h | h
    · exact .inl h
    · cases hv : s.volumes.get? name with
      | none =>
        rw [hv] at h
        dsimp only at h
        rw [Prod.mk.injEq] at h
        exact .inr (.inl ⟨rfl, h.1.symm, h.2.symm⟩)
      | some v =>
        rw [hv] at h
        dsimp only at h
        split at h
        · next e s₁ hp =>
          rw [Prod.mk.injEq] at h
          obtain ⟨rfl, rfl⟩ := h
          obtain ⟨ver, vols, ps, rfl, hle, hc⟩ := pollVolume_cases hp
          exact .inr (.inr ⟨v, ver, vols, ps, rfl, rfl, hle, .inl ⟨e, rfl⟩, hc⟩)
        · next s₁ hp =>
          rw [Prod.mk.injEq] at h
          obtain ⟨rfl, rfl⟩ := h
          obtain ⟨ver, vols, ps, rfl, hle, hc⟩ := pollVolume_cases hp
          exact .inr (.inr ⟨v, ver, vols, ps, rfl, rfl, hle, .inr rfl, hc⟩)

/-- What is seen of a volume is what is stored then. -/
theorem Serves.get?_of_getVolume {name : String} {found : Option LogicalVolume}
    (hs : s.Serves (.getVolume name) (.ok found) s') : s'.volumes.get? name = found := by
  rcases hs.getVolume with ⟨⟨e, he⟩, -⟩ | ⟨hnone, he, rfl⟩ | ⟨v, ver, vols, ps, -, rfl, -, ⟨e, he⟩ | he, -⟩
  · simp at he
  · exact hnone.trans (Except.ok.inj he).symm
  · simp at he
  · exact (Except.ok.inj he).symm

end LocalVolumes.Cluster
