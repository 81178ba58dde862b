import LocalVolumes.Proofs.Cluster.Identity

/-!
# LocalVolumes.Proofs.Cluster.Lifecycle — finalizers hold an object back

A deletion that meets finalizers leaves a timestamp, and a replacement neither gives nor takes one, whatever its
request carries.  So what is being deleted has a finalizer as long as it is stored, the time of its deletion stays, and
an object is gone only by a deletion that meets no finalizers or by the replacement that takes the last one.

All of it is said of the metadata under a kind and a name.  `Fate` lists what an event can make of these, and there is
one case analysis of the calls, which shows that every event keeps to the list.
-/

namespace LocalVolumes

/-- The kinds of objects that can be deleted. -/
inductive Kind
  | storageClass
  | localClass
  | volume
  deriving DecidableEq, Repr

/-- A call replaces an object by a request with certain metadata, and not only its status. -/
inductive Call.Replaces : Call → Kind → String → Metadata → Prop
  | storageClass (c : StorageClass) : Replaces (.replaceStorageClass c) .storageClass (Resource.key c) c.metadata
  | localClass (c : LocalClass) : Replaces (.replaceLocalClass c) .localClass (Resource.key c) c.metadata
  | volume (v : LogicalVolume) : Replaces (.replaceVolume v) .volume (Resource.key v) v.metadata

namespace Cluster

/-! ### Events -/

/-- What can happen to a cluster: a call, or something that others do. -/
inductive Event
  | call (c : Call)
  | intervention (i : Intervention)

/-- An event asks for the deletion of an object. -/
inductive Event.Deletes : Event → Kind → String → Prop
  | storageClass (n : String) : Deletes (.call (.deleteStorageClass n)) .storageClass n
  | localClass (n : String) : Deletes (.intervention (.deleteLocalClass n)) .localClass n
  | volume (n : String) : Deletes (.call (.deleteVolume n)) .volume n

/-- The cluster after an event. -/
def after (s : Cluster) : Event → Cluster
  | .call c => (s.answer c).2
  | .intervention i => s.intervene i

/-- Whether an event puts nothing into a cluster past the calls but local classes that are new and live. -/
def Admits (s : Cluster) : Event → Prop
  | .intervention (.putLocalClass c) => c.isBeingDeleted = false ∧ s.localClasses.get? (Resource.key c) = none
  | .intervention (.putStorageClass _) => False
  | .intervention (.putVolume _) => False
  | _ => True

/-- The metadata of what is stored. -/
def metadata? (s : Cluster) : Kind → String → Option Metadata
  | .storageClass, n => (s.storageClasses.get? n).map (·.metadata)
  | .localClass, n => (s.localClasses.get? n).map (·.metadata)
  | .volume, n => (s.volumes.get? n).map (·.metadata)

/-! ### The fate of an object -/

/-- What becomes of an object under a name, by the metadata before and after: `deletes` says that its deletion is
asked for, and `replaces` that a request with some metadata has taken its place. -/
inductive Fate (deletes : Prop) (replaces : Metadata → Prop) : Option Metadata → Option Metadata → Prop
  | stays (m : Option Metadata) : Fate deletes replaces m m
  | enters {m : Metadata} : m.isBeingDeleted = false → Fate deletes replaces none (some m)
  | rewritten {m m' : Metadata} : m'.deletionTimestamp = m.deletionTimestamp →
      (m.isBeingDeleted = true → m'.finalizerList ≠ []) → Fate deletes replaces (some m) (some m')
  | marked {m m' : Metadata} : deletes → m.isBeingDeleted = false → m'.finalizerList ≠ [] →
      Fate deletes replaces (some m) (some m')
  | deleted {m : Metadata} : deletes → m.finalizerList = [] → Fate deletes replaces (some m) none
  | released {m request : Metadata} : replaces request → m.isBeingDeleted = true → request.finalizerList = [] →
      Fate deletes replaces (some m) none

namespace Fate

variable {deletes : Prop} {replaces : Metadata → Prop} {before after : Option Metadata}

theorem of_eq (h : after = before) : Fate deletes replaces before after := h ▸ .stays _

/-- What is being deleted afterwards has finalizers. -/
theorem finalizers_ne_nil (h : Fate deletes replaces before after)
    (hb : ∀ m ∈ before, m.isBeingDeleted = true → m.finalizerList ≠ []) :
    ∀ m ∈ after, m.isBeingDeleted = true → m.finalizerList ≠ [] := by
  intro m' hm' hdel
  cases h with
  | stays => exact hb m' hm' hdel
  | enters hlive =>
    obtain rfl := Option.some.inj hm'
    exact absurd hdel (by simp [hlive])
  | rewritten htime hheld =>
    obtain rfl := Option.some.inj hm'
    rw [Metadata.isBeingDeleted, htime] at hdel
    exact hheld hdel
  | marked _ _ hheld => exact Option.some.inj hm' ▸ hheld
  | deleted => simp at hm'
  | released => simp at hm'

/-- The time of a deletion stays. -/
theorem deletionTimestamp {m m' : Metadata} {t : Timestamp} (h : Fate deletes replaces (some m) (some m'))
    (ht : m.deletionTimestamp = some t) : m'.deletionTimestamp = some t := by
  cases h with
  | stays => exact ht
  | rewritten htime _ => exact htime.trans ht
  | marked _ hlive _ => simp [Metadata.isBeingDeleted, ht] at hlive

/-- What is gone was deleted without finalizers, or a replacement has taken the last one. -/
theorem gone {m : Metadata} (h : Fate deletes replaces (some m) none) :
    deletes ∧ m.finalizerList = [] ∨
      ∃ request, replaces request ∧ m.isBeingDeleted = true ∧ request.finalizerList = [] := by
  cases h with
  | deleted hd hbare => exact .inl ⟨hd, hbare⟩
  | released hr hdel hbare => exact .inr ⟨_, hr, hdel, hbare⟩

/-! #### One table -/

section Tables

variable {α : Type} [Resource α] {m : NameMap α} {k n : String} {a b : α}

theorem of_insert_new (hnone : m.get? k = none) (hlive : (Resource.metadata a).isBeingDeleted = false) :
    Fate deletes replaces ((m.get? n).map Resource.metadata) (((m.insert k a).get? n).map Resource.metadata) := by
  rw [NameMap.get?_insert]
  split
  · next hk => exact (hk ▸ hnone : m.get? n = none) ▸ .enters hlive
  · exact .stays _

/-- An object is stored again, with the time of its deletion. -/
theorem of_insert (hk : m.get? k = some a)
    (htime : (Resource.metadata b).deletionTimestamp = (Resource.metadata a).deletionTimestamp)
    (hheld : (Resource.metadata a).isBeingDeleted = true → (Resource.metadata b).finalizerList ≠ []) :
    Fate deletes replaces ((m.get? n).map Resource.metadata) (((m.insert k b).get? n).map Resource.metadata) := by
  rw [NameMap.get?_insert]
  split
  · next hn => exact (hn ▸ hk : m.get? n = some a) ▸ .rewritten htime hheld
  · exact .stays _

variable [LawfulResource α]

/-- An object takes the place of another one, with the time of its deletion. -/
theorem of_settled (v : String) (hk : m.get? k = some a)
    (hreplaces : n = k → (Resource.metadata a).isBeingDeleted = true → (Resource.metadata b).finalizerList = [] →
      ∃ request, replaces request ∧ request.finalizerList = []) :
    let b' := stamped b v (Resource.metadata a).deletionTimestamp
    Fate deletes replaces ((m.get? n).map Resource.metadata) (((settled m k b').get? n).map Resource.metadata) := by
  intro b'
  have htime : (Resource.metadata b').deletionTimestamp = (Resource.metadata a).deletionTimestamp := by simp [b']
  have hdel : (Resource.metadata b').isBeingDeleted = (Resource.metadata a).isBeingDeleted := by
    rw [Metadata.isBeingDeleted, htime, Metadata.isBeingDeleted]
  have hlist : (Resource.metadata b').finalizerList = (Resource.metadata b).finalizerList := by
    simp [b', Metadata.finalizerList]
  by_cases hn : n = k
  · subst hn
    rw [hk]
    by_cases hgone : (Resource.metadata b').isBeingDeleted = true ∧ (Resource.metadata b').finalizerList = []
    · obtain ⟨request, hr, hbare⟩ := hreplaces rfl (hdel ▸ hgone.1) (hlist ▸ hgone.2)
      rw [settled, if_pos hgone, NameMap.get?_erase, if_pos rfl]
      exact .released hr (hdel ▸ hgone.1) hbare
    · rw [settled, if_neg hgone, NameMap.get?_insert, if_pos rfl]
      exact .rewritten htime fun hd hbare => hgone ⟨hdel ▸ hd, hbare⟩
  · rw [get?_settled_ne b' hn]
    exact .stays _

theorem of_markDeleted (v : String) (now : Timestamp) (hdeletes : n = k → deletes) :
    Fate deletes replaces ((m.get? n).map Resource.metadata)
      (((markDeleted m k v now).get? n).map Resource.metadata) := by
  by_cases hn : n = k
  · subst hn
    cases ha : m.get? n with
    | none =>
      rw [get?_markDeleted_eq_none (by simp [ha])]
      exact .stays _
    | some a =>
      by_cases hbare : (Resource.metadata a).finalizerList = []
      · have hnone : (markDeleted m n v now).get? n = none := by
          refine get?_markDeleted_eq_none fun b hb => ?_
          rwa [← Option.some.inj (ha.symm.trans hb)]
        rw [hnone]
        exact .deleted (hdeletes rfl) hbare
      · rw [get?_markDeleted_of_finalizer ha hbare]
        by_cases hdel : (Resource.metadata a).isBeingDeleted = true
        · rw [if_pos hdel]
          exact .stays _
        · rw [if_neg hdel]
          refine .marked (hdeletes rfl) (by simpa using hdel) ?_
          rw [metadata_stamped]
          exact hbare
  · rw [get?_markDeleted_ne hn]
    exact .stays _

end Tables

end Fate

/-! ### What an event can do -/

/-- Whatever is being deleted has finalizers. -/
def HeldBack (s : Cluster) : Prop :=
  ∀ k n m, s.metadata? k n = some m → m.isBeingDeleted = true → m.finalizerList ≠ []

/-- An event is a replacement that succeeds. -/
def ReplacedBy (s : Cluster) : Event → Kind → String → Metadata → Prop
  | .call c, k, n, request => c.Replaces k n request ∧ ∃ a, (s.answer c).1 = .ok a
  | .intervention _, _, _, _ => False

variable {s s' : Cluster}

theorem Rests.metadata? (h : s.Rests s') (k : Kind) (n : String) : s'.metadata? k n = s.metadata? k n := by
  obtain ⟨v, fs, -, rfl⟩ := h
  cases k <;> rfl

theorem HeldBack.localClass (h : s.HeldBack) {n : String} {c : LocalClass} (hc : s.localClasses.get? n = some c) :
    c.metadata.isBeingDeleted = true → c.metadata.finalizerList ≠ [] :=
  h .localClass n c.metadata (by rw [metadata?, hc]; rfl)

theorem HeldBack.volume (h : s.HeldBack) {n : String} {v : LogicalVolume} (hv : s.volumes.get? n = some v) :
    v.metadata.isBeingDeleted = true → v.metadata.finalizerList ≠ [] :=
  h .volume n v.metadata (by rw [metadata?, hv]; rfl)

section Calls

variable {c : Call} {r : c.Result} (hs : s.Serves c r s') (n : String)

include hs

theorem Serves.fate_storageClass :
    Fate ((Event.call c).Deletes .storageClass n)
      (fun request => c.Replaces .storageClass n request ∧ ∃ a, r = .ok a)
      (s.metadata? .storageClass n) (s'.metadata? .storageClass n) := by
  by_cases hc : c.WritesStorageClass
  · cases c with
    | createStorageClass c =>
      rcases hs.createStorageClass with hf | ⟨hnone, -, rfl⟩
      · exact .of_eq (hf.2.metadata? _ _)
      · exact .of_insert_new hnone (by simp [Metadata.isBeingDeleted])
    | replaceStorageClass c =>
      rcases hs.replaceStorageClass with hf | ⟨stored, hstored, -, rfl, rfl⟩
      · exact .of_eq (hf.2.metadata? _ _)
      · refine .of_settled _ hstored fun hn _ hbare => ⟨c.metadata, ⟨?_, _, rfl⟩, hbare⟩
        exact hn ▸ .storageClass c
    | deleteStorageClass name =>
      rcases hs.deleteStorageClass with hf | ⟨-, rfl⟩
      · exact .of_eq (hf.2.metadata? _ _)
      · exact .of_markDeleted _ _ fun hn => hn ▸ .storageClass name
    | _ => exact hc.elim
  · rw [metadata?, metadata?, hs.frame.storageClasses hc]
    exact .stays _

theorem Serves.fate_localClass (h : s.HeldBack) :
    Fate ((Event.call c).Deletes .localClass n)
      (fun request => c.Replaces .localClass n request ∧ ∃ a, r = .ok a)
      (s.metadata? .localClass n) (s'.metadata? .localClass n) := by
  by_cases hc : c.WritesLocalClass
  · cases c with
    | replaceLocalClass c =>
      rcases hs.replaceLocalClass with hf | ⟨stored, hstored, -, rfl, rfl⟩
      · exact .of_eq (hf.2.metadata? _ _)
      · refine .of_settled _ hstored fun hn _ hbare => ⟨c.metadata, ⟨?_, _, rfl⟩, hbare⟩
        exact hn ▸ .localClass c
    | replaceLocalClassStatus c =>
      rcases hs.replaceLocalClassStatus with hf | ⟨stored, hstored, -, rfl, rfl⟩
      · exact .of_eq (hf.2.metadata? _ _)
      · -- a status comes with the metadata that are stored, so it takes no finalizer
        refine .of_settled _ hstored fun hn hdel hbare => ?_
        have hheld : stored.metadata.finalizerList ≠ [] := h.localClass hstored hdel
        exact absurd hbare hheld
    | _ => exact hc.elim
  · rw [metadata?, metadata?, hs.frame.localClasses hc]
    exact .stays _

theorem Serves.fate_volume (h : s.HeldBack) :
    Fate ((Event.call c).Deletes .volume n) (fun request => c.Replaces .volume n request ∧ ∃ a, r = .ok a)
      (s.metadata? .volume n) (s'.metadata? .volume n) := by
  by_cases hc : c.TouchesVolume
  · cases c with
    | createVolume v =>
      rcases hs.createVolume with hf | ⟨hnone, -, rfl⟩
      · exact .of_eq (hf.2.metadata? _ _)
      · exact .of_insert_new hnone (by simp [Metadata.isBeingDeleted])
    | getVolume name =>
      rcases hs.getVolume with hf | ⟨-, -, rfl⟩ | ⟨v, ver, vols, ps, hv, rfl, -, -, rfl | ⟨status, rfl, -⟩⟩
      · exact .of_eq (hf.2.metadata? _ _)
      · exact .stays _
      · exact .stays _
      · exact .of_insert hv rfl (h.volume hv)
    | replaceVolume v =>
      rcases hs.replaceVolume with hf | ⟨stored, resized, ps, hstored, -, rfl, rfl⟩
      · exact .of_eq (hf.2.metadata? _ _)
      · refine .of_settled _ hstored fun hn _ hbare => ⟨v.metadata, ⟨?_, _, rfl⟩, hbare⟩
        exact hn ▸ .volume v
    | deleteVolume name =>
      rcases hs.deleteVolume with hf | ⟨-, rfl⟩
      · exact .of_eq (hf.2.metadata? _ _)
      · exact .of_markDeleted _ _ fun hn => hn ▸ .volume name
    | _ => exact hc.elim
  · rw [metadata?, metadata?, hs.frame.volumes hc]
    exact .stays _

end Calls

/-- What others do, short of putting in what is not new or not live. -/
theorem HeldBack.fate_intervene (h : s.HeldBack) {i : Intervention} (hi : s.Admits (.intervention i)) (k : Kind)
    (n : String) :
    Fate ((Event.intervention i).Deletes k n) (s.ReplacedBy (.intervention i) k n) (s.metadata? k n)
      ((s.intervene i).metadata? k n) := by
  cases i with
  | putStorageClass c => exact hi.elim
  | putLocalClass c =>
    cases k with
    | localClass => exact .of_insert_new hi.2 hi.1
    | storageClass => exact .stays _
    | volume => exact .stays _
  | putVolumeGroup g => cases k <;> exact .stays _
  | putVolume v => exact hi.elim
  | deleteLocalClass name =>
    cases k with
    | localClass => exact .of_markDeleted _ _ fun hn => hn ▸ .localClass name
    | storageClass => exact .stays _
    | volume => exact .stays _
  | reportVolume name status =>
    simp only [Cluster.intervene]
    split
    · cases k <;> exact .stays _
    · next v hv =>
      cases k with
      | volume => exact .of_insert hv rfl (h.volume hv)
      | storageClass => exact .stays _
      | localClass => exact .stays _
  | setConvergence c => cases k <;> exact .stays _
  | planFailure op e => cases k <;> exact .stays _
  | setTime now => cases k <;> exact .stays _

/-- **What an event can make of an object.** -/
theorem HeldBack.fate (h : s.HeldBack) {e : Event} (he : s.Admits e) (k : Kind) (n : String) :
    Fate (e.Deletes k n) (s.ReplacedBy e k n) (s.metadata? k n) ((s.after e).metadata? k n) := by
  cases e with
  | call c =>
    have hs : s.Serves c (s.answer c).1 (s.answer c).2 := serves_answer s c
    cases k with
    | storageClass => exact hs.fate_storageClass n
    | localClass => exact hs.fate_localClass n h
    | volume => exact hs.fate_volume n h
  | intervention i => exact h.fate_intervene he k n

/-! ### Lives -/

/-- A cluster lives on, event by event, while it has some property. -/
inductive Lives (p : Cluster → Prop) (s : Cluster) : Cluster → Prop
  | refl : Lives p s s
  | tail {t : Cluster} (e : Event) : Lives p s t → t.Admits e → p (t.after e) → Lives p s (t.after e)

theorem heldBack_empty : HeldBack {} := by
  intro k n m hm
  cases k <;> simp [metadata?] at hm

theorem HeldBack.after (h : s.HeldBack) {e : Event} (he : s.Admits e) : (s.after e).HeldBack :=
  fun k n => (h.fate he k n).finalizers_ne_nil (h k n)

theorem Lives.heldBack {p : Cluster → Prop} (h : Lives p s s') (hs : s.HeldBack) : s'.HeldBack := by
  induction h with
  | refl => exact hs
  | tail e _ he _ ih => exact ih.after he

theorem Lives.arises {p : Cluster → Prop} (h : Lives p s s') (hs : s.Arises) : s'.Arises := by
  induction h with
  | refl => exact hs
  | tail e _ _ _ ih =>
    cases e with
    | call c => exact ih.answer c
    | intervention i => exact ih.intervene i

/-- The time of a deletion stays as long as the object does. -/
theorem Lives.deletionTimestamp {k : Kind} {n : String} {t : Timestamp}
    (h : Lives (fun s => (s.metadata? k n).isSome) s s') (hs : s.HeldBack) {m : Metadata}
    (hm : s.metadata? k n = some m) (ht : m.deletionTimestamp = some t) :
    ∃ m', s'.metadata? k n = some m' ∧ m'.deletionTimestamp = some t := by
  induction h with
  | refl => exact ⟨m, hm, ht⟩
  | @tail u e hlives he hstored ih =>
    obtain ⟨m₁, hm₁, ht₁⟩ := ih
    obtain ⟨m₂, hm₂⟩ := Option.isSome_iff_exists.1 hstored
    have hfate := (hlives.heldBack hs).fate he k n
    rw [hm₁, hm₂] at hfate
    exact ⟨m₂, hm₂, hfate.deletionTimestamp ht₁⟩

/-- An object is gone by a deletion that meets no finalizers, or by a replacement that takes the last one. -/
theorem HeldBack.gone (h : s.HeldBack) {e : Event} (he : s.Admits e) {k : Kind} {n : String} {m : Metadata}
    (hm : s.metadata? k n = some m) (hgone : (s.after e).metadata? k n = none) :
    e.Deletes k n ∧ m.finalizerList = [] ∨
      ∃ request, s.ReplacedBy e k n request ∧ m.isBeingDeleted = true ∧ request.finalizerList = [] := by
  have hfate := h.fate he k n
  rw [hm, hgone] at hfate
  exact hfate.gone

end Cluster

open Cluster in
/-- **Finalizers hold an object back.**  In a cluster that starts empty and gets its objects by creations, and local
classes also from their owners, live and under new names, whatever is being deleted has a finalizer; the time of a
deletion stays as long as the object is stored; and an object is gone only by a deletion that meets no finalizers, or
by a replacement that succeeds, meets a deletion timestamp and leaves no finalizer. -/
theorem finalizers_hold_objects_back {s : Cluster} (hs : Lives (fun _ => True) {} s) :
    (∀ k n m, s.metadata? k n = some m → m.isBeingDeleted = true → m.finalizerList ≠ []) ∧
    (∀ k n m t s', s.metadata? k n = some m → m.deletionTimestamp = some t →
      Lives (fun u => (u.metadata? k n).isSome) s s' →
        ∃ m', s'.metadata? k n = some m' ∧ m'.deletionTimestamp = some t) ∧
    ∀ e k n m, s.Admits e → s.metadata? k n = some m → (s.after e).metadata? k n = none →
      e.Deletes k n ∧ m.finalizerList = [] ∨
        ∃ request, s.ReplacedBy e k n request ∧ m.isBeingDeleted = true ∧ request.finalizerList = [] := by
  have hheld : s.HeldBack := hs.heldBack heldBack_empty
  refine ⟨hheld, ?_, ?_⟩
  · intro k n m t s' hm ht hlives
    exact hlives.deletionTimestamp hheld hm ht
  · intro e k n m he hm hgone
    exact hheld.gone he hm hgone

namespace Sample

open Cluster (Event)

/-- A storage class that a client holds back. -/
def heldClass : StorageClass :=
  { metadata := { name := some "slow", finalizers := some ["example/backup"] }, provisioner := "other.csi" }

/-- A cluster in which the storage class was created and then deleted. -/
def doomed : Cluster :=
  (Cluster.after {} (.call (.createStorageClass heldClass))).after (.call (.deleteStorageClass "slow"))

/-- Some time later. -/
def later : Timestamp := { Timestamp.epoch with minute := 30 }

/-- The cluster after another deletion, at another time. -/
def doomedTwice : Cluster :=
  (doomed.after (.intervention (.setTime later))).after (.call (.deleteStorageClass "slow"))

/-- The client lets the storage class go. -/
def letGo : Event := .call (.replaceStorageClass { heldClass with metadata := { name := some "slow" } })

end Sample

/-- A storage class is deleted twice before its finalizer is taken away. -/
theorem finalizers_hold_objects_back_slow :
    (∃ m, Sample.doomed.metadata? .storageClass "slow" = some m ∧ m.finalizerList ≠ []) ∧
      (∃ m, Sample.doomedTwice.metadata? .storageClass "slow" = some m ∧ m.deletionTimestamp = some .epoch) ∧
      (∃ request, Sample.doomedTwice.ReplacedBy Sample.letGo .storageClass "slow" request ∧
        request.finalizerList = []) := by
  obtain ⟨m, hm, ht⟩ : ∃ m, Sample.doomed.metadata? .storageClass "slow" = some m ∧
      m.deletionTimestamp = some .epoch := ⟨_, rfl, rfl⟩
  have hdoomed : Cluster.Lives (fun _ => True) {} Sample.doomed :=
    .tail _ (.tail _ .refl trivial trivial) trivial trivial
  have htwice : Cluster.Lives (fun _ => True) {} Sample.doomedTwice :=
    .tail _ (.tail _ hdoomed trivial trivial) trivial trivial
  have hstays : Cluster.Lives (fun u => (u.metadata? .storageClass "slow").isSome) Sample.doomed
      Sample.doomedTwice :=
    .tail _ (.tail _ .refl trivial rfl) trivial rfl
  obtain ⟨hheld, htime, -⟩ := finalizers_hold_objects_back hdoomed
  obtain ⟨-, -, hgone⟩ := finalizers_hold_objects_back htwice
  obtain ⟨m', hm', ht'⟩ := htime _ _ m _ _ hm ht hstays
  refine ⟨⟨m, hm, hheld _ _ m hm ?_⟩, ⟨m', hm', ht'⟩, ?_⟩
  · rw [Metadata.isBeingDeleted, ht]
    rfl
  · rcases hgone Sample.letGo .storageClass "slow" m' trivial hm' rfl with ⟨hd, -⟩ | ⟨request, hr, -, hbare⟩
    · cases hd
    · exact ⟨request, hr, hbare⟩

end LocalVolumes
