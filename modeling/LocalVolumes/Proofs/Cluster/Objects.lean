import LocalVolumes.Cluster
import LocalVolumes.Proofs.NameMap

/-!
# LocalVolumes.Proofs.Cluster.Objects — what creations, replacements and deletions do to a table

One specification for each operation on the objects of one kind: when it succeeds, what it answers, and what the
table has afterwards.  Later modules cite these and never unfold the operations.
-/

/-- Both parts of a computation succeed if the whole does. -/
theorem Except.eq_ok_of_bind {ε α β : Type} {x : Except ε α} {f : α → Except ε β} {b : β}
    (h : x >>= f = .ok b) : ∃ a, x = .ok a ∧ f a = .ok b := by
  cases x with
  | error e => simp [bind, Except.bind] at h
  | ok a => exact ⟨a, rfl, h⟩

namespace LocalVolumes

/-- A kind of object whose metadata can be read back after it was written. -/
class LawfulResource (α : Type) [Resource α] : Prop where
  metadata_withMetadata (a : α) (m : Metadata) : Resource.metadata (Resource.withMetadata a m) = m

instance : LawfulResource StorageClass := ⟨fun _ _ => rfl⟩

instance : LawfulResource LocalClass := ⟨fun _ _ => rfl⟩

instance : LawfulResource LogicalVolume := ⟨fun _ _ => rfl⟩

instance : LawfulResource VolumeGroup := ⟨fun _ _ => rfl⟩

/-! ### Finalizers and names -/

namespace Metadata

variable {m : Metadata} {fs : List String}

theorem finalizerList_removeFinalizers_eq (m : Metadata) (fs : List String) :
    (m.removeFinalizers fs).finalizerList = m.finalizerList.filter (· ∉ fs) := by
  unfold removeFinalizers finalizerList
  cases m.finalizers with
  | none => rfl
  | some gs => simp

theorem finalizerList_removeFinalizers (h : m.finalizerList ⊆ fs) :
    (m.removeFinalizers fs).finalizerList = [] := by
  rw [finalizerList_removeFinalizers_eq, List.filter_eq_nil_iff]
  intro f hf
  simpa using h hf

theorem hasAnyFinalizer_removeFinalizers (m : Metadata) (fs : List String) :
    (m.removeFinalizers fs).hasAnyFinalizer fs = false := by
  unfold hasAnyFinalizer
  rw [finalizerList_removeFinalizers_eq, List.any_eq_false]
  intro f hf
  simpa using (List.mem_filter.1 hf).2

theorem filter_of_hasAnyFinalizer (h : m.hasAnyFinalizer fs = false) :
    m.finalizerList.filter (· ∉ fs) = m.finalizerList := by
  refine List.filter_eq_self.2 fun f hf => ?_
  simpa using List.any_eq_false.1 h f hf

theorem finalizerList_of_hasAnyFinalizer (h : m.finalizerList ⊆ fs)
    (ha : m.hasAnyFinalizer fs = false) : m.finalizerList = [] := by
  rw [← filter_of_hasAnyFinalizer ha, ← finalizerList_removeFinalizers_eq]
  exact finalizerList_removeFinalizers h

theorem hasFinalizer_addFinalizer (m : Metadata) (f : String) : (m.addFinalizer f).hasFinalizer f = true := by
  simp [hasFinalizer, addFinalizer, finalizerList]

theorem nameOrUnknown_of_name {n : String} (h : m.name = some n) : m.nameOrUnknown = n := by
  rw [nameOrUnknown, h, Option.getD_some]

end Metadata

theorem Resource.key_of_name {α : Type} [Resource α] {a : α} {n : String} (h : (Resource.metadata a).name = some n) :
    Resource.key a = n := by
  rw [Resource.key, h]
  rfl

namespace Cluster

variable {α : Type} [Resource α]

/-- A table stores every object under the key that the object has itself. -/
def Keyed (m : NameMap α) : Prop := ∀ k a, m.get? k = some a → Resource.key a = k

section Stamped

variable [LawfulResource α]

@[simp] theorem metadata_stamped (a : α) (v : String) (d : Option Timestamp) :
    Resource.metadata (stamped a v d) =
      { Resource.metadata a with resourceVersion := some v, deletionTimestamp := d } :=
  LawfulResource.metadata_withMetadata _ _

@[simp] theorem key_stamped (a : α) (v : String) (d : Option Timestamp) :
    Resource.key (stamped a v d) = Resource.key a := by
  simp [Resource.key]

end Stamped

/-! ### Creation -/

theorem createObject_eq_ok_iff {kind : String} {m m' : NameMap α} {a b : α} {v : String} :
    createObject kind m a v = .ok (b, m') ↔
      m.get? (Resource.key a) = none ∧ b = stamped a v none ∧ m' = m.insert (Resource.key a) b := by
  unfold createObject NameMap.contains
  cases m.get? (Resource.key a) with
  | some x => simp
  | none =>
    simp only [Option.isSome_none, Bool.false_eq_true, if_false, Except.ok.injEq, Prod.mk.injEq, true_and]
    constructor
    · rintro ⟨rfl, rfl⟩
      exact ⟨rfl, rfl⟩
    · rintro ⟨rfl, rfl⟩
      exact ⟨rfl, rfl⟩

/-! ### Replacement -/

/-- The table after an object has taken the place of another: one whose deletion was asked for is gone as soon as
it has no finalizers. -/
def settled (m : NameMap α) (k : String) (a : α) : NameMap α :=
  if (Resource.metadata a).isBeingDeleted ∧ (Resource.metadata a).finalizerList = [] then m.erase k
  else m.insert k a

theorem get?_settled_ne {m : NameMap α} {k k' : String} (a : α) (h : k' ≠ k) :
    (settled m k a).get? k' = m.get? k' := by
  unfold settled
  split
  · simp [NameMap.get?_erase, h]
  · simp [NameMap.get?_insert, h]

theorem get?_settled_self {m : NameMap α} {k : String} {a b : α} (h : (settled m k a).get? k = some b) :
    b = a := by
  unfold settled at h
  split at h
  · simp [NameMap.get?_erase] at h
  · simpa [NameMap.get?_insert, eq_comm] using h

/-- An object is stored, or it was being deleted without finalizers and is gone. -/
theorem get?_settled_cases (m : NameMap α) (k : String) (a : α) :
    (settled m k a).get? k = some a ∨
      (Resource.metadata a).isBeingDeleted = true ∧ (Resource.metadata a).finalizerList = [] ∧
        (settled m k a).get? k = none := by
  unfold settled
  split
  · next h => exact .inr ⟨h.1, h.2, by simp [NameMap.get?_erase]⟩
  · exact .inl (by simp [NameMap.get?_insert])

theorem get?_settled_of_finalizer {m : NameMap α} {k : String} {a : α}
    (h : (Resource.metadata a).finalizerList ≠ []) : (settled m k a).get? k = some a := by
  simp [settled, h, NameMap.get?_insert]

theorem get?_settled_of_live {m : NameMap α} {k : String} {a : α}
    (h : (Resource.metadata a).isBeingDeleted = false) : (settled m k a).get? k = some a := by
  simp [settled, h, NameMap.get?_insert]

theorem replaceObject_of_current [LawfulResource α] (kind v : String) (merge : α → α → α) {m : NameMap α} {a stored : α}
    (hm : m.get? (Resource.key a) = some stored) (hc : isCurrent stored a = true) :
    let b := stamped (merge stored a) v (Resource.metadata stored).deletionTimestamp
    replaceObject kind m a v merge = .ok (b, settled m (Resource.key a) b) := by
  intro b
  have hb : (Resource.metadata b).isBeingDeleted = (Resource.metadata stored).deletionTimestamp.isSome := by
    simp [b, Metadata.isBeingDeleted]
  unfold replaceObject settled
  simp only [hm, hc, if_true, hb, ← List.isEmpty_iff, ← Bool.and_eq_true]
  split <;> rfl

theorem replaceObject_eq_ok_iff [LawfulResource α] {kind : String} {m m' : NameMap α} {a b : α} {v : String}
    {merge : α → α → α} :
    replaceObject kind m a v merge = .ok (b, m') ↔
      ∃ stored, m.get? (Resource.key a) = some stored ∧ isCurrent stored a = true ∧
        b = stamped (merge stored a) v (Resource.metadata stored).deletionTimestamp ∧
        m' = settled m (Resource.key a) b := by
  constructor
  · intro h
    cases hm : m.get? (Resource.key a) with
    | none => simp [replaceObject, hm] at h
    | some stored =>
      by_cases hc : isCurrent stored a = true
      · rw [replaceObject_of_current _ _ _ hm hc, Except.ok.injEq, Prod.mk.injEq] at h
        obtain ⟨rfl, rfl⟩ := h
        exact ⟨stored, rfl, hc, rfl, rfl⟩
      · simp [replaceObject, hm, hc] at h
  · rintro ⟨stored, hm, hc, rfl, rfl⟩
    exact replaceObject_of_current _ _ _ hm hc

theorem isCurrent_self (a : α) : isCurrent a a = true := by
  unfold isCurrent
  split
  · rfl
  · next h => simp [h]

/-! ### Deletion -/

theorem get?_markDeleted_ne {m : NameMap α} {k k' v : String} {now : Timestamp} (h : k' ≠ k) :
    (markDeleted m k v now).get? k' = m.get? k' := by
  unfold markDeleted
  split
  · rfl
  · split
    · simp [NameMap.get?_erase, h]
    · split
      · rfl
      · simp [NameMap.get?_insert, h]

/-- A deletion marks an object at most: what has finalizers stays, and what has none is gone. -/
theorem get?_markDeleted_self {m : NameMap α} {k v : String} {now : Timestamp} {b : α}
    (h : (markDeleted m k v now).get? k = some b) :
    ∃ a, m.get? k = some a ∧ (Resource.metadata a).finalizerList ≠ [] ∧
      ((Resource.metadata a).isBeingDeleted = true ∧ b = a ∨
        (Resource.metadata a).isBeingDeleted = false ∧ b = stamped a v (some now)) := by
  unfold markDeleted at h
  cases hm : m.get? k with
  | none => simp [hm] at h
  | some a =>
    simp only [hm, List.isEmpty_iff] at h
    refine ⟨a, rfl, ?_⟩
    split at h
    · simp [NameMap.get?_erase] at h
    · next hf =>
      refine ⟨hf, ?_⟩
      split at h
      · next hd =>
        rw [hm] at h
        exact .inl ⟨hd, (Option.some.inj h).symm⟩
      · next hd =>
        simp only [NameMap.get?_insert, if_true, Option.some.injEq] at h
        exact .inr ⟨by simpa using hd, h.symm⟩

/-- What has no finalizers does not survive its deletion. -/
theorem get?_markDeleted_eq_none {m : NameMap α} {k v : String} {now : Timestamp}
    (h : ∀ a, m.get? k = some a → (Resource.metadata a).finalizerList = []) :
    (markDeleted m k v now).get? k = none := by
  refine Option.eq_none_iff_forall_ne_some.2 fun b hb => ?_
  obtain ⟨a, ha, hf, -⟩ := get?_markDeleted_self hb
  exact hf (h a ha)

theorem get?_markDeleted_of_finalizer {m : NameMap α} {k v : String} {now : Timestamp} {a : α} (hm : m.get? k = some a)
    (hf : (Resource.metadata a).finalizerList ≠ []) :
    (markDeleted m k v now).get? k =
      some (if (Resource.metadata a).isBeingDeleted then a else stamped a v (some now)) := by
  unfold markDeleted
  simp only [hm, List.isEmpty_iff, hf, if_false]
  split
  · exact hm
  · simp [NameMap.get?_insert]

/-- What has no finalizers is gone after its deletion, and the rest is being deleted and keeps them. -/
theorem get?_markDeleted_cases [LawfulResource α] {m : NameMap α} {k : String} {a : α} (hm : m.get? k = some a)
    (v : String) (now : Timestamp) :
    (Resource.metadata a).finalizerList = [] ∧ (markDeleted m k v now).get? k = none ∨
      ∃ b, (markDeleted m k v now).get? k = some b ∧ (Resource.metadata b).isBeingDeleted = true ∧
        (Resource.metadata a).finalizerList ≠ [] ∧
        (Resource.metadata b).finalizerList = (Resource.metadata a).finalizerList := by
  by_cases hf : (Resource.metadata a).finalizerList = []
  · refine .inl ⟨hf, get?_markDeleted_eq_none fun b hb => ?_⟩
    rwa [← Option.some.inj (hm.symm.trans hb)]
  · refine .inr ⟨_, get?_markDeleted_of_finalizer hm hf, ?_, hf, ?_⟩
    · split
      · assumption
      · simp [Metadata.isBeingDeleted]
    · split
      · rfl
      · simp [Metadata.finalizerList]

end Cluster

end LocalVolumes
