import LocalVolumes.Proofs.Cluster.Identity
import LocalVolumes.Proofs.Cluster.Renewal

/-!
# LocalVolumes.Proofs.Cluster.StorageClasses — storage classes of someone else

A storage class is known by its version, as all objects are.  A creation and a replacement leave alone what is stored
under other names, and a creation what is stored under its own; a replacement meets the storage class whose version it
carries.  Only a deletion does not look at what it meets.
-/

namespace LocalVolumes.Cluster

variable {s s' s'' : Cluster}

/-! ### Versions of storage classes -/

/-- Versions advance, and every storage class was there before or has a version that was given since. -/
def RenewsClasses (s s' : Cluster) : Prop :=
  s.version ≤ s'.version ∧ Renewed s.version s'.version s.storageClasses s'.storageClasses

theorem RenewsClasses.refl (s : Cluster) : RenewsClasses s s := ⟨Nat.le_refl _, .of_eq rfl⟩

theorem RenewsClasses.trans (h : RenewsClasses s s') (h' : RenewsClasses s' s'') : RenewsClasses s s'' :=
  ⟨Nat.le_trans h.1 h'.1, h.2.trans h.1 h'.1 h'.2⟩

theorem RenewsClasses.of_eq (hv : s.version ≤ s'.version) (h : s'.storageClasses = s.storageClasses) :
    RenewsClasses s s' := ⟨hv, .of_eq h⟩

theorem Makes.renewsClasses {made : Option Object} (h : Makes made s s') : RenewsClasses s s' := by
  refine ⟨h.version_le, fun n sc hsc => (h.held n (.storageClass sc) hsc).imp id fun hmade => ?_⟩
  obtain ⟨hlt, hv⟩ := h.dated _ hmade
  exact ⟨s.version + 1, Nat.lt_succ_self _, hlt, hv⟩

theorem RenewsClasses.serves {c : Call} {r : c.Result} (hs : s.Serves c r s') : RenewsClasses s s' := by
  obtain ⟨made, hm, -⟩ := hs.makesShown
  exact hm.renewsClasses

theorem RenewsClasses.intervene (i : Intervention) : RenewsClasses s (s.intervene i) := by
  obtain ⟨made, hm⟩ := makes_intervene s i
  exact hm.renewsClasses

/-- Storage classes are stored under their keys, and carry versions that were given. -/
structure Classified (s : Cluster) : Prop where
  keyed : Keyed s.storageClasses
  dated : Dated s.version s.storageClasses

theorem Classified.renews (h : s.Classified) (hr : RenewsClasses s s') (hk : Keyed s'.storageClasses) :
    s'.Classified := ⟨hk, hr.2.dated hr.1 h.dated⟩

theorem Classified.serves (h : s.Classified) {c : Call} {r : c.Result} (hs : s.Serves c r s') : s'.Classified :=
  h.renews (.serves hs) (hs.keyed_storageClasses h.keyed)

/-- **Every storage class is stored under its key with a version that was given.** -/
theorem Arises.classified (h : s.Arises) : s.Classified := by
  refine ⟨h.tidy.storageClasses, ?_⟩
  induction h with
  | empty => exact fun n sc hsc => by simp at hsc
  | @answer s c _ ih =>
    have hr : RenewsClasses s (s.answer c).2 := .serves (serves_answer s c)
    exact hr.2.dated hr.1 ih
  | @intervene s i _ ih =>
    have hr : RenewsClasses s (s.intervene i) := .intervene i
    exact hr.2.dated hr.1 ih

/-! ### What happens to the storage classes of someone else -/

/-- Every storage class of someone else is as it was. -/
def LeavesForeign (s s' : Cluster) : Prop :=
  ∀ k sc, s.storageClasses.get? k = some sc → sc.isManaged = false → s'.storageClasses.get? k = some sc

theorem LeavesForeign.of_eq (h : s'.storageClasses = s.storageClasses) : LeavesForeign s s' :=
  fun _ _ hsc _ => h ▸ hsc

theorem LeavesForeign.serves {c : Call} {r : c.Result} (hs : s.Serves c r s') (hc : ¬ c.WritesStorageClass) :
    LeavesForeign s s' := .of_eq (hs.frame.storageClasses hc)

/-- A creation succeeds only where nothing is stored. -/
theorem LeavesForeign.createStorageClass {c : StorageClass} {r : Except Fault StorageClass}
    (hs : s.Serves (.createStorageClass c) r s') : LeavesForeign s s' := by
  rcases hs.createStorageClass with hf | ⟨hnone, -, rfl⟩
  · exact .of_eq hf.2.storageClasses
  · intro k sc hsc _
    have hk : k ≠ Resource.key c := by
      rintro rfl
      simp [hnone] at hsc
    simpa [NameMap.get?_insert, hk] using hsc

/-- A replacement leaves the others alone if what it meets is managed. -/
theorem LeavesForeign.replaceStorageClass {c : StorageClass} {r : Except Fault StorageClass}
    (hs : s.Serves (.replaceStorageClass c) r s')
    (hm : ∀ stored, s.storageClasses.get? (Resource.key c) = some stored → isCurrent stored c = true →
      stored.isManaged = true) : LeavesForeign s s' := by
  rcases hs.replaceStorageClass with hf | ⟨stored, hstored, hcurrent, -, rfl⟩
  · exact .of_eq hf.2.storageClasses
  · intro k sc hsc hforeign
    have hk : k ≠ Resource.key c := by
      rintro rfl
      obtain rfl := Option.some.inj (hstored.symm.trans hsc)
      exact Bool.false_ne_true (hforeign.symm.trans (hm stored hstored hcurrent))
    exact (get?_settled_ne _ hk).trans hsc

/-- A deletion leaves alone what is stored under other names. -/
theorem get?_of_deleteStorageClass {name k : String} {r : Except Fault Unit}
    (hs : s.Serves (.deleteStorageClass name) r s') (hk : k ≠ name) :
    s'.storageClasses.get? k = s.storageClasses.get? k := by
  rcases hs.deleteStorageClass with hf | ⟨-, rfl⟩
  · rw [hf.2.storageClasses]
  · exact get?_markDeleted_ne hk

end LocalVolumes.Cluster
