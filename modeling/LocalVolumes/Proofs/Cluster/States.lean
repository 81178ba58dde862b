import LocalVolumes.Proofs.Cluster.Frame

/-!
# LocalVolumes.Proofs.Cluster.States — the states of a cluster

A cluster starts empty and changes by answers to calls and by interventions of others.  In every state that arises so
each object is stored under its own key.
-/

namespace LocalVolumes.Cluster

/-- A state that a cluster comes to by answers and interventions. -/
inductive Arises : Cluster → Prop
  | empty : Arises {}
  | answer {s : Cluster} (c : Call) : Arises s → Arises (s.answer c).2
  | intervene {s : Cluster} (i : Intervention) : Arises s → Arises (s.intervene i)

section Keyed

variable {α : Type} [Resource α] {m : NameMap α}

theorem Keyed.empty : Keyed (∅ : NameMap α) := fun k a h => by simp at h

theorem Keyed.insert (h : Keyed m) (a : α) : Keyed (m.insert (Resource.key a) a) := by
  intro k b hb
  rw [NameMap.get?_insert] at hb
  split at hb
  · next hk => rw [← Option.some.inj hb, hk]
  · exact h k b hb

theorem Keyed.insert_of_key (h : Keyed m) {k : String} {a : α} (ha : Resource.key a = k) :
    Keyed (m.insert k a) := ha ▸ h.insert a

theorem Keyed.erase (h : Keyed m) (k : String) : Keyed (m.erase k) := by
  intro k' a ha
  rw [NameMap.get?_erase] at ha
  split at ha
  · simp at ha
  · exact h k' a ha

theorem Keyed.settled (h : Keyed m) {k : String} {a : α} (ha : Resource.key a = k) :
    Keyed (settled m k a) := by
  unfold Cluster.settled
  split
  · exact h.erase k
  · exact h.insert_of_key ha

variable [LawfulResource α]

theorem Keyed.markDeleted (h : Keyed m) (k v : String) (now : Timestamp) : Keyed (markDeleted m k v now) := by
  unfold Cluster.markDeleted
  split
  · exact h
  · next a ha =>
    split
    · exact h.erase k
    · split
      · exact h
      · exact h.insert_of_key (by rw [key_stamped, h k a ha])

theorem Keyed.putObject (h : Keyed m) (a : α) (v : String) : Keyed (putObject m a v) :=
  h.insert_of_key (by simp [Resource.key, LawfulResource.metadata_withMetadata])

end Keyed

/-- Every object of a cluster is stored under its own key. -/
structure Tidy (s : Cluster) : Prop where
  storageClasses : Keyed s.storageClasses
  localClasses : Keyed s.localClasses
  volumes : Keyed s.volumes

variable {s s' : Cluster}

/-! ### Calls -/

theorem Serves.keyed_storageClasses {c : Call} {r : c.Result} (hs : s.Serves c r s') (h : Keyed s.storageClasses) :
    Keyed s'.storageClasses := by
  by_cases hc : c.WritesStorageClass
  · cases c with
    | createStorageClass c =>
      rcases hs.createStorageClass with hf | ⟨-, -, rfl⟩
      · exact hf.2.storageClasses ▸ h
      · exact h.insert_of_key (key_stamped ..)
    | replaceStorageClass c =>
      rcases hs.replaceStorageClass with hf | ⟨stored, -, -, -, rfl⟩
      · exact hf.2.storageClasses ▸ h
      · exact h.settled (key_stamped ..)
    | deleteStorageClass name =>
      rcases hs.deleteStorageClass with hf | ⟨-, rfl⟩
      · exact hf.2.storageClasses ▸ h
      · exact h.markDeleted _ _ _
    | _ => exact hc.elim
  · exact hs.frame.storageClasses hc ▸ h

theorem Serves.keyed_localClasses {c : Call} {r : c.Result} (hs : s.Serves c r s') (h : Keyed s.localClasses) :
    Keyed s'.localClasses := by
  by_cases hc : c.WritesLocalClass
  · cases c with
    | replaceLocalClass c =>
      rcases hs.replaceLocalClass with hf | ⟨stored, -, -, -, rfl⟩
      · exact hf.2.localClasses ▸ h
      · exact h.settled (key_stamped ..)
    | replaceLocalClassStatus c =>
      rcases hs.replaceLocalClassStatus with hf | ⟨stored, hstored, -, -, rfl⟩
      · exact hf.2.localClasses ▸ h
      · -- the object keeps the metadata that is stored, so its key is the one that it is stored under
        have hk : Resource.key stored = Resource.key c := h _ _ hstored
        exact h.settled ((key_stamped ..).trans hk)
    | _ => exact hc.elim
  · exact hs.frame.localClasses hc ▸ h

theorem Serves.keyed_volumes {c : Call} {r : c.Result} (hs : s.Serves c r s') (h : Keyed s.volumes) :
    Keyed s'.volumes := by
  by_cases hc : c.TouchesVolume
  · cases c with
    | createVolume v =>
      rcases hs.createVolume with hf | ⟨-, -, rfl⟩
      · exact hf.2.volumes ▸ h
      · exact h.insert_of_key (key_stamped ..)
    | getVolume name =>
      rcases hs.getVolume with hf | ⟨-, -, rfl⟩ | ⟨v, ver, vols, ps, hv, rfl, -, -, rfl | ⟨status, rfl, -⟩⟩
      · exact hf.2.volumes ▸ h
      · exact h
      · exact h
      · have hk : Resource.key v = name := h _ _ hv
        exact h.insert_of_key hk
    | replaceVolume v =>
      rcases hs.replaceVolume with hf | ⟨stored, resized, ps, -, -, -, rfl⟩
      · exact hf.2.volumes ▸ h
      · exact h.settled (key_stamped ..)
    | deleteVolume name =>
      rcases hs.deleteVolume with hf | ⟨-, rfl⟩
      · exact hf.2.volumes ▸ h
      · exact h.markDeleted _ _ _
    | _ => exact hc.elim
  · exact hs.frame.volumes hc ▸ h

theorem Tidy.serves (h : s.Tidy) {c : Call} {r : c.Result} (hs : s.Serves c r s') : s'.Tidy :=
  ⟨hs.keyed_storageClasses h.storageClasses, hs.keyed_localClasses h.localClasses, hs.keyed_volumes h.volumes⟩

/-! ### Interventions -/

theorem Tidy.intervene (h : s.Tidy) (i : Intervention) : (s.intervene i).Tidy := by
  cases i with
  | putStorageClass c => exact { h with storageClasses := h.storageClasses.putObject _ _ }
  | putLocalClass c => exact { h with localClasses := h.localClasses.putObject _ _ }
  | putVolumeGroup g => exact { h with }
  | putVolume v => exact { h with volumes := h.volumes.putObject _ _ }
  | deleteLocalClass name => exact { h with localClasses := h.localClasses.markDeleted _ _ _ }
  | reportVolume name status =>
    simp only [Cluster.intervene]
    split
    · exact { h with }
    · next v hv =>
      have hk : Resource.key v = name := h.volumes _ _ hv
      exact { h with volumes := h.volumes.insert_of_key hk }
  | setConvergence c => exact { h with }
  | planFailure op e => exact { h with }
  | setTime now => exact { h with }

/-- **Every object of a cluster is stored under its own key.** -/
theorem Arises.tidy (h : s.Arises) : s.Tidy := by
  induction h with
  | empty => exact ⟨.empty, .empty, .empty⟩
  | answer c _ ih => exact ih.serves (.inl rfl)
  | intervene i _ ih => exact ih.intervene i

end LocalVolumes.Cluster
