import LocalVolumes.Proofs.Interference
import LocalVolumes.Proofs.Materialization

/-!
# LocalVolumes.Proofs.Holding — managed storage classes and the local classes that hold them

A managed storage class is held if the local class of its name is stored and carries the finalizer of the controller.
What each call of a pass does to this, what others do to it, and what a list of storage classes still tells later on.
-/

namespace LocalVolumes

open Cluster

/-- The local class of a name is stored and carries the finalizer of the controller. -/
def Held (n : String) (s : Cluster) : Prop :=
  ∃ c, s.localClasses.get? n = some c ∧ c.hasFinalizer = true

/-- No managed storage class is stored under a name. -/
def Bare (n : String) (s : Cluster) : Prop :=
  ∀ sc, s.storageClasses.get? n = some sc → sc.isManaged = false

/-- Local classes know their names, and every managed storage class is held by the local class of its name. -/
structure Owned (s : Cluster) : Prop where
  keyed : Keyed s.storageClasses
  named : ∀ n c, s.localClasses.get? n = some c → c.metadata.name = some n
  managed : ∀ n sc, s.storageClasses.get? n = some sc → sc.isManaged = true →
    sc.metadata.name = some n ∧ sc.metadata.finalizerList ⊆ Marks.controllerFinalizers ∧ Held n s

/-- Only objects of one name differ. -/
def Touches (n : String) (s s' : Cluster) : Prop :=
  ∀ k, k ≠ n → s'.localClasses.get? k = s.localClasses.get? k ∧
    s'.storageClasses.get? k = s.storageClasses.get? k

/-- What others may do while a pass over a name runs: the class stays held, and a managed storage class of the name is
one that was there, with the finalizers that it had. -/
def spares (n : String) : Rely where
  may s s' := (Held n s → Held n s') ∧
    ∀ sc', s'.storageClasses.get? n = some sc' → sc'.isManaged = true →
      ∃ sc, s.storageClasses.get? n = some sc ∧ sc.isManaged = true ∧
        sc.metadata.finalizerList = sc'.metadata.finalizerList
  refl s := ⟨id, fun sc' h hm => ⟨sc', h, hm, rfl⟩⟩
  trans h h' := by
    refine ⟨fun hh => h'.1 (h.1 hh), fun sc'' hsc hm => ?_⟩
    obtain ⟨sc', hsc', hm', hf'⟩ := h'.2 sc'' hsc hm
    obtain ⟨sc, hsc₀, hm₀, hf⟩ := h.2 sc' hsc' hm'
    exact ⟨sc, hsc₀, hm₀, hf.trans hf'⟩

variable {n : String} {s s' : Cluster}

theorem Bare.may (h : Bare n s) (hr : (spares n).may s s') : Bare n s' := by
  intro sc' hsc'
  by_contra hm
  obtain ⟨sc, hsc, hm', -⟩ := hr.2 sc' hsc' (by simpa using hm)
  rw [h sc hsc] at hm'
  exact Bool.false_ne_true hm'

/-- What touches one name only is what passes over other names rely on. -/
theorem Touches.spares {m : String} (h : Touches m s s') (hne : n ≠ m) : (spares n).may s s' := by
  obtain ⟨hl, hs⟩ := h n hne
  refine ⟨?_, fun sc' hsc' hm => ⟨sc', hs ▸ hsc', hm, rfl⟩⟩
  rintro ⟨c, hc, hf⟩
  exact ⟨c, hl ▸ hc, hf⟩

/-! ### Steps -/

theorem Cluster.Rests.spares (h : s.Rests s') : (spares n).may s s' := by
  obtain ⟨v, fs, -, rfl⟩ := h
  exact (spares n).refl s

theorem Owned.rests (h : Owned s) (hr : s.Rests s') : Owned s' ∧ Touches n s s' := by
  obtain ⟨v, fs, -, rfl⟩ := hr
  exact ⟨⟨h.keyed, h.named, h.managed⟩, fun k _ => ⟨rfl, rfl⟩⟩

/-- A write of the local class of a name: it keeps the finalizer, or there is nothing to be held. -/
theorem Owned.settle (h : Owned s) {c : LocalClass} (hc : c.metadata.name = some n)
    (hl : s'.localClasses = settled s.localClasses n c) (hs : s'.storageClasses = s.storageClasses)
    (hf : Bare n s ∨ c.hasFinalizer = true) : Owned s' ∧ Touches n s s' := by
  have hne {k : String} (hk : k ≠ n) : s'.localClasses.get? k = s.localClasses.get? k := by
    rw [hl, get?_settled_ne c hk]
  refine ⟨⟨hs ▸ h.keyed, fun k a ha => ?_, fun k sc hsc hm => ?_⟩, fun k hk => ⟨hne hk, by rw [hs]⟩⟩
  · by_cases hk : k = n
    · subst hk
      rw [hl] at ha
      rw [get?_settled_self ha, hc]
    · exact h.named k a (hne hk ▸ ha)
  · rw [hs] at hsc
    obtain ⟨hname, hsub, a, ha, hfa⟩ := h.managed k sc hsc hm
    refine ⟨hname, hsub, ?_⟩
    by_cases hk : k = n
    · subst hk
      rcases hf with hb | hf
      · rw [hb sc hsc] at hm
        exact absurd hm Bool.false_ne_true
      · have hne : c.metadata.finalizerList ≠ [] := by
          rintro he
          simp [LocalClass.hasFinalizer, Metadata.hasFinalizer, he] at hf
        exact ⟨c, hl ▸ get?_settled_of_finalizer hne, hf⟩
    · exact ⟨a, by rw [hne hk, ha], hfa⟩

/-- A write of the storage class of a name. -/
theorem Owned.swap (h : Owned s) (hl : s'.localClasses = s.localClasses)
    (hne : ∀ k, k ≠ n → s'.storageClasses.get? k = s.storageClasses.get? k)
    (hn : ∀ sc, s'.storageClasses.get? n = some sc → Resource.key sc = n ∧ (sc.isManaged = true →
      sc.metadata.name = some n ∧ sc.metadata.finalizerList ⊆ Marks.controllerFinalizers ∧ Held n s)) :
    Owned s' ∧ Touches n s s' := by
  have held (k : String) : Held k s → Held k s' := by
    rintro ⟨c, hc, hf⟩
    exact ⟨c, hl ▸ hc, hf⟩
  refine ⟨⟨fun k sc hsc => ?_, hl ▸ h.named, fun k sc hsc hm => ?_⟩, fun k hk => ⟨by rw [hl], hne k hk⟩⟩
  · by_cases hk : k = n
    · subst hk
      exact (hn sc hsc).1
    · exact h.keyed k sc (hne k hk ▸ hsc)
  · by_cases hk : k = n
    · subst hk
      obtain ⟨hname, hsub, hh⟩ := (hn sc hsc).2 hm
      exact ⟨hname, hsub, held k hh⟩
    · obtain ⟨hname, hsub, hh⟩ := h.managed k sc (hne k hk ▸ hsc) hm
      exact ⟨hname, hsub, held k hh⟩

theorem Owned.replaceLocalClassStatus (h : Owned s) {c : LocalClass} {r : Except Fault LocalClass}
    (hc : c.metadata.name = some n) (hs : s.Serves (.replaceLocalClassStatus c) r s') :
    Owned s' ∧ Touches n s s' := by
  have hkey : Resource.key c = n := Resource.key_of_name hc
  rcases hs.replaceLocalClassStatus with hf | ⟨stored, hst, -, -, rfl⟩
  · exact h.rests hf.2
  · rw [hkey] at hst ⊢
    refine h.settle ?_ rfl rfl ?_
    · exact h.named n stored hst
    by_cases hfin : stored.hasFinalizer = true
    · exact .inr hfin
    · -- a managed storage class would be held by the stored class
      refine .inl fun sc hsc => ?_
      by_contra hm
      obtain ⟨-, -, a, ha, hfa⟩ := h.managed n sc hsc (by simpa using hm)
      rw [hst, Option.some.injEq] at ha
      exact hfin (ha ▸ hfa)

theorem Owned.replaceLocalClass (h : Owned s) {c : LocalClass} {r : Except Fault LocalClass}
    (hc : c.metadata.name = some n) (hf : Bare n s ∨ c.hasFinalizer = true)
    (hs : s.Serves (.replaceLocalClass c) r s') :
    (Owned s' ∧ Touches n s s') ∧
      ∀ c', r = .ok c' → c'.metadata.name = some n ∧ (c.hasFinalizer = true → Held n s') := by
  have hkey : Resource.key c = n := Resource.key_of_name hc
  rcases hs.replaceLocalClass with ⟨⟨e, rfl⟩, hrest⟩ | ⟨stored, hst, -, rfl, rfl⟩
  · exact ⟨h.rests hrest, fun c' he => by simp at he⟩
  · rw [hkey] at hst ⊢
    refine ⟨h.settle ?_ rfl rfl hf, ?_⟩
    · exact hc
    rintro c' hc'
    obtain rfl := Except.ok.inj hc'
    refine ⟨hc, fun hfin => ⟨_, get?_settled_of_finalizer ?_, hfin⟩⟩
    intro he
    have he' : c.metadata.finalizerList = [] := he
    simp [LocalClass.hasFinalizer, Metadata.hasFinalizer, he'] at hfin

theorem Owned.createStorageClass (h : Owned s) {sc : StorageClass} {r : Except Fault StorageClass}
    (hsc : IsMaterialization n sc) (hh : Held n s) (hs : s.Serves (.createStorageClass sc) r s') :
    Owned s' ∧ Touches n s s' := by
  rcases hs.createStorageClass with hf | ⟨-, -, rfl⟩
  · exact h.rests hf.2
  · rw [hsc.key]
    refine h.swap rfl (fun k hk => by simp [NameMap.get?_insert, hk]) fun a ha => ?_
    simp only [NameMap.get?_insert, if_true, Option.some.injEq] at ha
    subst ha
    refine ⟨(key_stamped ..).trans hsc.key, fun _ => ⟨hsc.name, ?_, hh⟩⟩
    intro f hfin
    have hfin' : f ∈ sc.metadata.finalizerList := hfin
    simp only [hsc.finalizerList, List.mem_singleton] at hfin'
    simp [hfin', Marks.controllerFinalizers]

/-- A managed storage class of a name has no finalizers any more. -/
def Stripped (n : String) (s : Cluster) : Prop :=
  ∀ sc, s.storageClasses.get? n = some sc → sc.isManaged = true → sc.metadata.finalizerList = []

theorem Stripped.may (h : Stripped n s) (hr : (spares n).may s s') : Stripped n s' := by
  intro sc' hsc' hm'
  obtain ⟨sc, hsc, hm, hf⟩ := hr.2 sc' hsc' hm'
  rw [← hf, h sc hsc hm]

theorem Owned.replaceStorageClass (h : Owned s) {sc : StorageClass} {r : Except Fault StorageClass}
    (hn : sc.metadata.name = some n) (hf : sc.metadata.finalizerList = []) (hh : Held n s)
    (hs : s.Serves (.replaceStorageClass sc) r s') :
    (Owned s' ∧ Touches n s s') ∧ Held n s' ∧ ∀ sc', r = .ok sc' → Stripped n s' := by
  have hkey : Resource.key sc = n := Resource.key_of_name hn
  rcases hs.replaceStorageClass with ⟨⟨e, rfl⟩, hrest⟩ | ⟨stored, -, -, rfl, rfl⟩
  · refine ⟨h.rests hrest, ?_, fun c' he => by simp at he⟩
    obtain ⟨c, hc, hfin⟩ := hh
    exact ⟨c, hrest.localClasses ▸ hc, hfin⟩
  · rw [hkey]
    refine ⟨h.swap rfl (fun k hk => get?_settled_ne _ hk) fun a ha => ?_, hh, fun _ _ a ha _ => ?_⟩
    · rw [get?_settled_self ha]
      refine ⟨(key_stamped ..).trans hkey, fun _ => ⟨hn, ?_, hh⟩⟩
      have hnil : (stamped sc s.nextVersion stored.metadata.deletionTimestamp).metadata.finalizerList = [] := hf
      simp [hnil]
    · rw [get?_settled_self ha]
      exact hf

theorem Owned.deleteStorageClass (h : Owned s) {r : Except Fault Unit}
    (hs : s.Serves (.deleteStorageClass n) r s') :
    (Owned s' ∧ Touches n s s') ∧ (Held n s → Held n s') ∧ (r = .ok () → Stripped n s → Bare n s') := by
  rcases hs.deleteStorageClass with ⟨⟨e, rfl⟩, hrest⟩ | ⟨rfl, rfl⟩
  · refine ⟨h.rests hrest, ?_, fun he => by simp at he⟩
    rintro ⟨c, hc, hfin⟩
    exact ⟨c, hrest.localClasses ▸ hc, hfin⟩
  · refine ⟨h.swap rfl (fun k hk => get?_markDeleted_ne hk) fun a ha => ?_, id, fun _ hst a ha => ?_⟩
    · obtain ⟨b, hb, -, ⟨-, rfl⟩ | ⟨-, rfl⟩⟩ := get?_markDeleted_self ha
      · exact ⟨h.keyed n _ hb, h.managed n _ hb⟩
      · exact ⟨(key_stamped ..).trans (h.keyed n _ hb), h.managed n b hb⟩
    · -- what is still there has finalizers, so it is not managed
      by_contra hm
      obtain ⟨b, hb, hne, ⟨-, rfl⟩ | ⟨-, rfl⟩⟩ := get?_markDeleted_self ha
      · exact hne (hst _ hb (by simpa using hm))
      · exact hne (hst b hb (Bool.of_not_eq_false hm))

/-! ### The list of storage classes -/

/-- What a list of storage classes tells of a name: a managed one in the list is held, and one that is stored is like
the one in the list. -/
structure Knows (n : String) (classes : List StorageClass) (s : Cluster) : Prop where
  held : ∀ sc, findClass? classes n = some sc → sc.isManaged = true →
    sc.metadata.name = some n ∧ sc.metadata.finalizerList ⊆ Marks.controllerFinalizers ∧ Held n s
  like : ∀ sc', s.storageClasses.get? n = some sc' → sc'.isManaged = true →
    ∃ sc, findClass? classes n = some sc ∧ sc.isManaged = true ∧
      sc.metadata.finalizerList = sc'.metadata.finalizerList

variable {classes : List StorageClass}

theorem Knows.may (h : Knows n classes s) (hr : (spares n).may s s') : Knows n classes s' := by
  refine ⟨fun sc hsc hm => ?_, fun sc' hsc' hm' => ?_⟩
  · obtain ⟨hname, hsub, hh⟩ := h.held sc hsc hm
    exact ⟨hname, hsub, hr.1 hh⟩
  · obtain ⟨sc, hsc, hm, hf⟩ := hr.2 sc' hsc' hm'
    obtain ⟨sc₀, hsc₀, hm₀, hf₀⟩ := h.like sc hsc hm
    exact ⟨sc₀, hsc₀, hm₀, hf₀.trans hf⟩

/-- A name whose storage class is not in the list, or belongs to someone else, has nothing to be held. -/
theorem Knows.bare (h : Knows n classes s) (hf : ∀ sc, findClass? classes n = some sc → sc.isManaged = false) :
    Bare n s := by
  intro sc' hsc'
  by_contra hm
  obtain ⟨sc, hsc, hm', -⟩ := h.like sc' hsc' (Bool.of_not_eq_false hm)
  rw [hf sc hsc] at hm'
  exact Bool.false_ne_true hm'

theorem Owned.knows (h : Owned s) (n : String) : Knows n s.storageClasses.values s := by
  refine ⟨fun sc hsc hm => ?_, fun sc' hsc' hm' => ?_⟩
  · exact h.managed n sc ((findClass?_values_eq_some_iff h.keyed).1 hsc).1 hm
  · have hname := (h.managed n sc' hsc' hm').1
    exact ⟨sc', (findClass?_values_eq_some_iff h.keyed).2 ⟨hsc', hname⟩, hm', rfl⟩

/-! ### Everyone else -/

/-- What others do while passes run: owners create local classes, edit them and delete them, the groups change, and
anyone may delete a storage class or create one for another provisioner. -/
inductive Meanwhile : Cluster → Cluster → Prop
  /-- An owner creates a class under a free name. -/
  | createLocalClass {s : Cluster} {n : String} {c : LocalClass} :
    c.metadata.name = some n → s.localClasses.get? n = none → Meanwhile s (s.intervene (.putLocalClass c))
  /-- An owner edits a class and leaves its finalizers as they are. -/
  | editLocalClass {s : Cluster} {n : String} {c c' : LocalClass} :
    s.localClasses.get? n = some c → c'.metadata.name = some n →
      c'.metadata.finalizers = c.metadata.finalizers → Meanwhile s (s.intervene (.putLocalClass c'))
  | deleteLocalClass {s : Cluster} (n : String) : Meanwhile s (s.intervene (.deleteLocalClass n))
  | deleteStorageClass {s : Cluster} (n : String) : Meanwhile s (s.answer (.deleteStorageClass n)).2
  | createStorageClass {s : Cluster} {sc : StorageClass} :
    sc.isManaged = false → Meanwhile s (s.answer (.createStorageClass sc)).2
  | changeGroups {s : Cluster} (groups : NameMap VolumeGroup) : Meanwhile s { s with groups }

/-- What keeps the local classes held and the managed storage classes as they are keeps them owned. -/
theorem Owned.disturbed (h : Owned s) (hkeyed : Keyed s'.storageClasses)
    (hnamed : ∀ n c, s'.localClasses.get? n = some c → c.metadata.name = some n)
    (hheld : ∀ n, Held n s → Held n s')
    (hkept : ∀ n sc', s'.storageClasses.get? n = some sc' → sc'.isManaged = true →
      ∃ sc, s.storageClasses.get? n = some sc ∧ sc.isManaged = true ∧
        sc.metadata.name = sc'.metadata.name ∧ sc.metadata.finalizerList = sc'.metadata.finalizerList) :
    Owned s' ∧ ∀ n, (spares n).may s s' := by
  refine ⟨⟨hkeyed, hnamed, fun n sc' hsc' hm' => ?_⟩, fun n => ⟨hheld n, fun sc' hsc' hm' => ?_⟩⟩
  · obtain ⟨sc, hsc, hm, hname, hfin⟩ := hkept n sc' hsc' hm'
    obtain ⟨hn, hsub, hh⟩ := h.managed n sc hsc hm
    exact ⟨hname ▸ hn, hfin ▸ hsub, hheld n hh⟩
  · obtain ⟨sc, hsc, hm, -, hfin⟩ := hkept n sc' hsc' hm'
    exact ⟨sc, hsc, hm, hfin⟩

/-- What leaves the storage classes alone leaves the managed ones as they are. -/
theorem kept_of_eq (h : s'.storageClasses = s.storageClasses) (n : String) (sc' : StorageClass)
    (hsc : s'.storageClasses.get? n = some sc') (hm : sc'.isManaged = true) :
    ∃ sc, s.storageClasses.get? n = some sc ∧ sc.isManaged = true ∧
      sc.metadata.name = sc'.metadata.name ∧ sc.metadata.finalizerList = sc'.metadata.finalizerList :=
  ⟨sc', h ▸ hsc, hm, rfl, rfl⟩

/-- An owner puts a class in the place of none or of one with the same finalizers. -/
theorem Owned.putLocalClass (h : Owned s) {c' : LocalClass} (hname : c'.metadata.name = some n)
    (hf : ∀ c, s.localClasses.get? n = some c → c'.metadata.finalizers = c.metadata.finalizers) :
    Owned (s.intervene (.putLocalClass c')) ∧ ∀ m, (spares m).may s (s.intervene (.putLocalClass c')) := by
  have hget (k : String) : (s.intervene (.putLocalClass c')).localClasses.get? k =
      if k = n then some { c' with metadata := { c'.metadata with resourceVersion := some s.nextVersion } }
      else s.localClasses.get? k := by
    rw [← Resource.key_of_name (a := c') hname]
    exact NameMap.get?_insert ..
  refine h.disturbed h.keyed (fun k c hc => ?_) (fun k hk => ?_) (kept_of_eq rfl)
  · rw [hget k] at hc
    split at hc
    · next hk =>
      obtain rfl := Option.some.inj hc
      exact hk ▸ hname
    · exact h.named k c hc
  · obtain ⟨c, hc, hfin⟩ := hk
    by_cases hkn : k = n
    · subst hkn
      refine ⟨_, (hget k).trans (if_pos rfl), ?_⟩
      simpa [LocalClass.hasFinalizer, Metadata.hasFinalizer, Metadata.finalizerList, hf c hc] using hfin
    · exact ⟨c, by rw [hget k, if_neg hkn, hc], hfin⟩

theorem Owned.meanwhile (h : Owned s) (hs : Meanwhile s s') : Owned s' ∧ ∀ n, (spares n).may s s' := by
  cases hs with
  | createLocalClass hname hnone => exact h.putLocalClass hname fun c hc => by simp [hnone] at hc
  | editLocalClass hc hname hf =>
    exact h.putLocalClass hname fun c₀ hc₀ => by rw [hf, Option.some.inj (hc.symm.trans hc₀)]
  | deleteLocalClass n =>
    have hne {k : String} (hk : k ≠ n) :
        (s.intervene (.deleteLocalClass n)).localClasses.get? k = s.localClasses.get? k :=
      get?_markDeleted_ne hk
    refine h.disturbed h.keyed (fun k c hc => ?_) (fun k hk => ?_) (kept_of_eq rfl)
    · by_cases hk : k = n
      · subst hk
        obtain ⟨a, ha, -, ⟨-, rfl⟩ | ⟨-, rfl⟩⟩ := get?_markDeleted_self hc
        · exact h.named k _ ha
        · exact h.named k a ha
      · exact h.named k c (hne hk ▸ hc)
    · obtain ⟨c, hc, hfin⟩ := hk
      by_cases hk : k = n
      · subst hk
        have hlist : c.metadata.finalizerList ≠ [] := by
          intro he
          simp [LocalClass.hasFinalizer, Metadata.hasFinalizer, he] at hfin
        refine ⟨_, get?_markDeleted_of_finalizer hc hlist, ?_⟩
        split
        · exact hfin
        · exact hfin
      · exact ⟨c, (hne hk).trans hc, hfin⟩
  | deleteStorageClass n =>
    have hserves : s.Serves (.deleteStorageClass n) (s.answer (.deleteStorageClass n)).1
      (s.answer (.deleteStorageClass n)).2 := .inl rfl
    rcases hserves.deleteStorageClass with hf | ⟨-, he⟩
    · exact ⟨(h.rests (n := n) hf.2).1, fun m => hf.2.spares⟩
    · rw [he]
      refine h.disturbed (h.keyed.markDeleted _ _ _) h.named (fun _ => id) fun k sc' hsc' hm' => ?_
      by_cases hk : k = n
      · subst hk
        obtain ⟨a, ha, -, ⟨-, rfl⟩ | ⟨-, rfl⟩⟩ := get?_markDeleted_self hsc'
        · exact ⟨_, ha, hm', rfl, rfl⟩
        · exact ⟨a, ha, hm', rfl, rfl⟩
      · exact ⟨sc', (get?_markDeleted_ne hk).symm.trans hsc', hm', rfl, rfl⟩
  | @createStorageClass sc hm =>
    have hserves : s.Serves (.createStorageClass sc) (s.answer (.createStorageClass sc)).1
      (s.answer (.createStorageClass sc)).2 := .inl rfl
    rcases hserves.createStorageClass with hf | ⟨-, -, he⟩
    · exact ⟨(h.rests (n := Resource.key sc) hf.2).1, fun m => hf.2.spares⟩
    · rw [he]
      refine h.disturbed (h.keyed.insert_of_key (key_stamped ..)) h.named (fun _ => id) fun k sc' hsc' hm' => ?_
      simp only [NameMap.get?_insert] at hsc'
      split at hsc'
      · obtain rfl := Option.some.inj hsc'
        exact absurd (hm.symm.trans hm') Bool.false_ne_true
      · exact ⟨sc', hsc', hm', rfl, rfl⟩
  | changeGroups groups => exact h.disturbed h.keyed h.named (fun _ => id) (kept_of_eq rfl)

end LocalVolumes
