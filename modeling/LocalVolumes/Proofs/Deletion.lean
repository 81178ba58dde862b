import LocalVolumes.Proofs.Materialization
import LocalVolumes.Proofs.Rest

/-!
# LocalVolumes.Proofs.Deletion — a class that is being deleted is let go

A pass over a class that is being deleted looks at nothing that is declared in it, so nothing that is wrong with the
class or with its storage class can hold the pass up.  It takes the finalizers of the controller from both, first from
the storage class.  What others hold stays, and so does all that is not of the class.
-/

namespace LocalVolumes

open Cluster

variable {n : String} {c : LocalClass} {sc : StorageClass} {s t : Cluster}

/-- The finalizers that are not of the controller. -/
def Metadata.foreignFinalizers (m : Metadata) : List String :=
  m.finalizerList.filter (· ∉ Marks.controllerFinalizers)

/-- What is left of an object that was deleted: nothing if nobody holds it, and otherwise an object that is being
deleted, with the finalizers of those who do. -/
def HeldBy {α : Type} [Resource α] (finalizers : List String) (found : Option α) : Prop :=
  finalizers = [] ∧ found = none ∨
    finalizers ≠ [] ∧ ∃ a, found = some a ∧ (Resource.metadata a).isBeingDeleted = true ∧
      (Resource.metadata a).finalizerList = finalizers

theorem HeldBy.eq_none {α : Type} [Resource α] {fs : List String} {found : Option α} (h : HeldBy fs found)
    (hfs : fs = []) : found = none := by
  rcases h with ⟨-, hnone⟩ | ⟨hne, -⟩
  · exact hnone
  · exact absurd hfs hne

/-- What is left of a class: nothing if nobody but the controller held it, or a class without the finalizers of the
controller. -/
def LetGo (c : LocalClass) (found : Option LocalClass) : Prop :=
  c.metadata.foreignFinalizers = [] ∧ found = none ∨
    ∃ c', found = some c' ∧ c'.spec = c.spec ∧ c'.status = c.status ∧
      c'.metadata.finalizerList = c.metadata.foreignFinalizers

/-! ### The storage class -/

/-- The storage class of a name was deleted, and nothing but storage classes and the journal has changed. -/
structure Drops (n : String) (sc : StorageClass) (s t : Cluster) : Prop where
  calm : t.Calm
  left : HeldBy sc.metadata.foreignFinalizers (t.storageClasses.get? n)
  storageClasses : ∀ k ≠ n, t.storageClasses.get? k = s.storageClasses.get? k
  localClasses : t.localClasses = s.localClasses
  groups : t.groups = s.groups
  volumes : t.volumes = s.volumes
  journal : ∃ ops, t.journal = s.journal ++ ops ∧ ∀ op ∈ ops, op = .replaceStorageClass n ∨ op = .deleteStorageClass n

/-- What is stored once the controller holds it no more: an object with the finalizers of others, or nothing if that
was the last hold. -/
structure Released {α : Type} [Resource α] (finalizers : List String) (found : Option α) : Prop where
  finalizerList : ∀ a, found = some a → (Resource.metadata a).finalizerList = finalizers
  gone : found = none → finalizers = []

section Tables

variable {α : Type} [Resource α] {m : NameMap α} {fs : List String}

/-- A replacement by a request with the finalizers of others. -/
theorem Released.settled {a : α} (h : (Resource.metadata a).finalizerList = fs) :
    Released fs ((settled m n a).get? n) where
  finalizerList b hb := get?_settled_self hb ▸ h
  gone hnone := by
    rcases get?_settled_cases m n a with hsome | ⟨-, hbare, -⟩
    · exact absurd (hnone.symm.trans hsome) (by simp)
    · exact h.symm.trans hbare

/-- A deletion of what only others hold, or of what is gone already. -/
theorem Released.markDeleted [LawfulResource α] (h : Released fs (m.get? n)) (v : String) (now : Timestamp) :
    HeldBy fs ((markDeleted m n v now).get? n) := by
  cases hm : m.get? n with
  | none => exact .inl ⟨h.gone hm, get?_markDeleted_eq_none (by simp [hm])⟩
  | some a =>
    obtain rfl := h.finalizerList a hm
    rcases get?_markDeleted_cases hm v now with ⟨hbare, hnone⟩ | ⟨b, hb, hdel, hne, hlist⟩
    · exact .inl ⟨hbare, hnone⟩
    · exact .inr ⟨hne, b, hb, hdel, hlist⟩

end Tables

/-- A storage class is dropped if its replacement is. -/
theorem Drops.of_replaced {a : StorageClass}
    (h : Drops n sc { s.bump with
      storageClasses := settled s.storageClasses n a
      journal := s.journal ++ [.replaceStorageClass n] } t) : Drops n sc s t := by
  obtain ⟨ops, hj, hops⟩ := h.journal
  exact {
    h with
    storageClasses := fun k hk => (h.storageClasses k hk).trans (get?_settled_ne a hk)
    journal := ⟨_, hj.trans (List.append_assoc s.journal [_] ops), List.forall_mem_cons.2 ⟨.inl rfl, hops⟩⟩ }

namespace Pass

theorem drops_deleteStorageClass (h : s.Calm)
    (hreleased : Released sc.metadata.foreignFinalizers (s.storageClasses.get? n)) :
    (Routine.call (.deleteStorageClass n)).Alone (fun r t => r = .ok () ∧ Drops n sc s t) s := by
  rw [← Routine.bind_pure_right (Routine.call _)]
  refine .call_bind (answer_deleteStorageClass h.failures n) ⟨rfl, ?_⟩
  exact {
    calm := ⟨h.failures, h.storageClasses.markDeleted n s.nextVersion s.now⟩
    left := hreleased.markDeleted s.nextVersion s.now
    storageClasses := fun k hk => get?_markDeleted_ne hk
    localClasses := rfl
    groups := rfl
    volumes := rfl
    journal := ⟨_, rfl, fun op hop => .inr (List.mem_singleton.1 hop)⟩ }

/-- A managed storage class goes, but for the finalizers of others. -/
theorem drops_deleteClass (h : s.Calm) (hsc : s.storageClasses.get? n = some sc) (hname : sc.metadata.name = some n)
    (hm : sc.isManaged = true) : (deleteClass sc).Alone (fun r t => r = .ok () ∧ Drops n sc s t) s := by
  -- the pass asks for the name in the storage class, not for the one that it was found by
  obtain rfl : sc.metadata.name.getD "" = n := by rw [hname, Option.getD_some]
  unfold deleteClass
  simp only [hm, Bool.not_true, Bool.false_eq_true, if_false]
  split
  · let stripped : StorageClass := { sc with metadata := sc.metadata.removeFinalizers Marks.controllerFinalizers }
    have hname' : stripped.metadata.name = some (sc.metadata.name.getD "") := hname
    have hkey : Resource.key stripped = _ := Resource.key_of_name hname'
    have hlist : stripped.metadata.finalizerList = sc.metadata.foreignFinalizers :=
      Metadata.finalizerList_removeFinalizers_eq _ _
    have hanswer := answer_replaceStorageClass (c := stripped) h.failures (hkey.symm ▸ hsc) (isCurrent_self sc)
    rw [hkey] at hanswer
    have hcalm := h.storageClasses.settled ((key_stamped stripped s.nextVersion sc.metadata.deletionTimestamp).trans hkey)
    refine .call_bind hanswer (.mono (drops_deleteStorageClass ⟨h.failures, hcalm⟩ (.settled hlist)) ?_)
    exact fun r t ⟨hr, ht⟩ => ⟨hr, ht.of_replaced⟩
  · next hany =>
    have hlist : sc.metadata.foreignFinalizers = sc.metadata.finalizerList :=
      Metadata.filter_of_hasAnyFinalizer (Bool.of_not_eq_true hany)
    refine drops_deleteStorageClass h ⟨fun a ha => ?_, fun hnone => ?_⟩
    · rw [hlist, Option.some.inj (hsc.symm.trans ha)]
      rfl
    · exact absurd (hnone.symm.trans hsc) (by simp)

end Pass

/-! ### The class -/

/-- The class of a name was let go, and nothing else has changed but the journal. -/
structure LetsGo (n : String) (c : LocalClass) (s t : Cluster) : Prop where
  left : LetGo c (t.localClasses.get? n)
  localClasses : ∀ k ≠ n, t.localClasses.get? k = s.localClasses.get? k
  storageClasses : t.storageClasses = s.storageClasses
  groups : t.groups = s.groups
  volumes : t.volumes = s.volumes
  journal : ∃ ops, t.journal = s.journal ++ ops ∧ ∀ op ∈ ops, op = .replaceLocalClass n

theorem Pass.letsGo_release (hf : s.failures = []) (hc : s.localClasses.get? n = some c)
    (hn : c.metadata.name = some n) : (release c).Alone (fun r t => r = .ok .done ∧ LetsGo n c s t) s := by
  cases hany : c.metadata.hasAnyFinalizer Marks.controllerFinalizers with
  | false =>
    have hlist : c.metadata.foreignFinalizers = c.metadata.finalizerList := Metadata.filter_of_hasAnyFinalizer hany
    rw [release_of_hasAnyFinalizer hany]
    exact ⟨rfl, .inr ⟨c, hc, rfl, rfl, hlist.symm⟩, fun _ _ => rfl, rfl, rfl, rfl, [], by simp, by simp⟩
  | true =>
    let released : LocalClass := { c with metadata := c.metadata.removeFinalizers Marks.controllerFinalizers }
    have hkey : Resource.key released = n := Resource.key_of_name hn
    have hlist : released.metadata.finalizerList = c.metadata.foreignFinalizers :=
      Metadata.finalizerList_removeFinalizers_eq _ _
    have hanswer := answer_replaceLocalClass (c := released) hf (hkey.symm ▸ hc) (isCurrent_self c)
    rw [hkey] at hanswer
    unfold release LocalClass.removeFinalizer
    rw [hany]
    refine .call_bind hanswer ⟨rfl, ?_⟩
    exact {
      left := by
        rcases get?_settled_cases s.localClasses n
            (stamped (keepClassStatus c released) s.nextVersion c.metadata.deletionTimestamp) with
          hsome | ⟨-, hbare, hnone⟩
        · exact .inr ⟨_, hsome, rfl, rfl, hlist⟩
        · exact .inl ⟨hlist.symm.trans hbare, hnone⟩
      localClasses := fun k hk => get?_settled_ne _ hk
      storageClasses := rfl
      groups := rfl
      volumes := rfl
      journal := ⟨_, rfl, fun op hop => List.mem_singleton.1 hop⟩ }

/-! ### The pass -/

/-- A storage class is the one of a class by name and belongs to the controller. -/
def StorageClass.IsOwnOf (n : String) (sc : StorageClass) : Prop :=
  sc.metadata.name = some n ∧ sc.isManaged = true

/-- What a pass over a class that is being deleted leaves behind. -/
structure Dissolves (n : String) (c : LocalClass) (s t : Cluster) : Prop where
  /-- The class is gone, or only others hold it. -/
  localClass : LetGo c (t.localClasses.get? n)
  /-- Its storage class is gone, or only others hold it. -/
  storageClass : ∀ sc, s.storageClasses.get? n = some sc → sc.IsOwnOf n →
    HeldBy sc.metadata.foreignFinalizers (t.storageClasses.get? n)
  /-- Other storage classes are as they were, also one of the name that belongs to someone else. -/
  storageClasses : ∀ k, (∀ sc, s.storageClasses.get? k = some sc → ¬ sc.IsOwnOf n) →
    t.storageClasses.get? k = s.storageClasses.get? k
  localClasses : ∀ k ≠ n, t.localClasses.get? k = s.localClasses.get? k
  groups : t.groups = s.groups
  volumes : t.volumes = s.volumes
  /-- The storage class comes first. -/
  journal : ∃ dropped released, t.journal = s.journal ++ dropped ++ released ∧
    (∀ op ∈ dropped, op = .replaceStorageClass n ∨ op = .deleteStorageClass n) ∧
    ∀ op ∈ released, op = .replaceLocalClass n

theorem LetsGo.dissolves (h : LetsGo n c s t)
    (hnone : ∀ sc, s.storageClasses.get? n = some sc → ¬ sc.IsOwnOf n) : Dissolves n c s t where
  localClass := h.left
  storageClass sc hsc hown := absurd hown (hnone sc hsc)
  storageClasses k _ := by rw [h.storageClasses]
  localClasses := h.localClasses
  groups := h.groups
  volumes := h.volumes
  journal := by
    obtain ⟨ops, hj, hops⟩ := h.journal
    exact ⟨[], ops, by simpa using hj, by simp, hops⟩

theorem Drops.dissolves {u : Cluster} (h : Drops n sc s t) (hsc : s.storageClasses.get? n = some sc)
    (hown : sc.IsOwnOf n) (hlets : LetsGo n c t u) : Dissolves n c s u where
  localClass := hlets.left
  storageClass sc' hsc' _ := by
    obtain rfl := Option.some.inj (hsc.symm.trans hsc')
    exact hlets.storageClasses ▸ h.left
  storageClasses k hk := by
    rw [hlets.storageClasses]
    refine h.storageClasses k ?_
    rintro rfl
    exact hk sc hsc hown
  localClasses k hk := (hlets.localClasses k hk).trans (by rw [h.localClasses])
  groups := hlets.groups.trans h.groups
  volumes := hlets.volumes.trans h.volumes
  journal := by
    obtain ⟨dropped, hd, hdropped⟩ := h.journal
    obtain ⟨released, hr, hreleased⟩ := hlets.journal
    exact ⟨dropped, released, by rw [hr, hd], hdropped, hreleased⟩

theorem Pass.dissolves_delete (h : s.Calm) (hc : s.localClasses.get? n = some c) (hn : c.metadata.name = some n) :
    (delete c s.storageClasses.values).Alone (fun r t => r = .ok .done ∧ Dissolves n c s t) s := by
  have hname : c.name = n := Metadata.nameOrUnknown_of_name hn
  by_cases hclass : ∀ current, findClass? s.storageClasses.values n = some current → current.isManaged = false
  · rw [delete_of_unmanaged (by rwa [hname])]
    refine (letsGo_release h.failures hc hn).mono fun r t ⟨hr, ht⟩ => ⟨hr, ht.dissolves fun sc hsc hown => ?_⟩
    have hf := (findClass?_values_eq_some_iff h.storageClasses).2 ⟨hsc, hown.1⟩
    exact Bool.false_ne_true ((hclass sc hf).symm.trans hown.2)
  · obtain ⟨current, hf, hm⟩ : ∃ current, findClass? s.storageClasses.values n = some current ∧
        current.isManaged = true := by simpa using hclass
    obtain ⟨hsc, hcurrent⟩ := (findClass?_values_eq_some_iff h.storageClasses).1 hf
    unfold delete
    simp only [hname, hf, hm, Bool.not_true, Bool.false_eq_true, if_false]
    refine .bind (drops_deleteClass h hsc hcurrent hm) fun r t ⟨hr, ht⟩ => ?_
    subst hr
    refine (letsGo_release ht.calm.failures (ht.localClasses ▸ hc) hn).mono fun r u ⟨hr, hu⟩ => ⟨hr, ?_⟩
    exact ht.dissolves hsc ⟨hcurrent, hm⟩ hu

theorem dissolves_reconcile (h : s.Calm) (hc : s.localClasses.get? n = some c) (hn : c.metadata.name = some n)
    (hdeleted : c.isBeingDeleted = true) :
    (reconcile c).Alone (fun r t => r = .ok .done ∧ Dissolves n c s t) s := by
  rw [Pass.reconcile_eq]
  refine .call_bind (answer_listStorageClasses h.failures) ?_
  have hfinds : Finds c s.storageClasses.values .delete := hdeleted
  exact Pass.alone_proceed hfinds (Pass.dissolves_delete h hc hn)

/-- **Nothing holds up the deletion of a class.**  A pass over a class that is being deleted, with whatever it declares
and whatever is stored under its name, is done if no call fails and nobody else acts.  The class is gone, or it is as
it was with the finalizers of others only; its storage class, if it belongs to the controller, is gone, or it is being
deleted and has the finalizers of others only; nothing else is touched, and the storage class comes first. -/
theorem deletion_goes_through {s : Simulation} (signal : StopSignal) (hs : s.cluster.Arises)
    (hf : s.cluster.failures = []) (hc : s.cluster.localClasses.get? n = some c) (hn : c.metadata.name = some n)
    (hdeleted : c.isBeingDeleted = true) :
    let pass := s.perform signal [] (reconcile c)
    pass.1 = .ok .done ∧ Dissolves n c s.cluster pass.2.cluster :=
  Routine.Alone.run (s := { s with cancelled := false })
    (dissolves_reconcile ⟨hf, hs.tidy.storageClasses⟩ hc hn hdeleted)

namespace Sample

/-- A storage class of the controller that tells nothing, and that someone else holds as well. -/
def blankClass : StorageClass :=
  { metadata := { name := some "local", finalizers := some ["example/backup", Marks.controllerFinalizer] }
    provisioner := Marks.provisioner }

/-- A class that asks for nothing. -/
def blankLocalClass : LocalClass :=
  { localClass with
    metadata := { name := some "local", finalizers := some [Marks.controllerFinalizer] }
    spec := ⟨.delete, .immediate, none, none⟩ }

/-- A cluster with both, in which the class is being deleted. -/
def dyingCluster : Cluster :=
  ((({} : Cluster).intervene (.putStorageClass blankClass)).intervene (.putLocalClass blankLocalClass)).intervene
    (.deleteLocalClass "local")

/-- The class as it is stored. -/
def dyingClass : LocalClass := Cluster.stamped blankLocalClass "3" (some .epoch)

/-- A pass over it. -/
@[irreducible] def dyingPass : Except Fault Outcome × Simulation :=
  ({ cluster := dyingCluster } : Simulation).perform .ofRoutine [] (reconcile dyingClass)

end Sample

/-- A class that asks for nothing is gone, and its storage class stays with the one who holds it. -/
theorem deletion_goes_through_blank :
    Sample.dyingPass.1 = .ok .done ∧
      Sample.dyingPass.2.cluster.localClasses.get? "local" = none ∧
      HeldBy ["example/backup"] (Sample.dyingPass.2.cluster.storageClasses.get? "local") ∧
      Sample.dyingPass.2.cluster.journal =
        [.replaceStorageClass "local", .deleteStorageClass "local", .replaceLocalClass "local"] := by
  have hs : Sample.dyingCluster.Arises := .intervene _ (.intervene _ (.intervene _ .empty))
  have hpass := deletion_goes_through (n := "local") (c := Sample.dyingClass) (s := { cluster := Sample.dyingCluster })
    .ofRoutine hs (by decide +kernel) (by decide +kernel) (by decide +kernel) (by decide +kernel)
  have e : Sample.dyingPass =
      ({ cluster := Sample.dyingCluster } : Simulation).perform .ofRoutine [] (reconcile Sample.dyingClass) := by
    rw [Sample.dyingPass]
  rw [← e] at hpass
  obtain ⟨hdone, hleft⟩ := hpass
  have hstored : Sample.dyingCluster.storageClasses.get? "local" =
      some (Cluster.stamped Sample.blankClass "1" none) := by decide +kernel
  exact ⟨hdone, by decide +kernel, hleft.storageClass _ hstored ⟨by decide +kernel, by decide +kernel⟩,
    by decide +kernel⟩

end LocalVolumes
