import LocalVolumes.Proofs.Deletion
import LocalVolumes.Proofs.Drift

/-!
# LocalVolumes.Proofs.Quiescence — a second pass writes nothing

The first pass over a class that nobody else touches leaves the class at rest, if the class is still there, whether the
pass is done, is to be run again or has failed.
-/

namespace LocalVolumes

open Cluster

variable {n : String} {c c' : LocalClass} {s t : Cluster} {st : ClassStatus}

/-! ### Writing the class -/

/-- Another version of the class of a name is stored, and nothing but local classes has changed. -/
structure Rewrites (n : String) (c' c : LocalClass) (s t : Cluster) : Prop where
  restates : Restates c' c
  stored : t.localClasses.get? n = some c'
  storageClasses : t.storageClasses = s.storageClasses
  groups : t.groups = s.groups
  failures : t.failures = s.failures

/-- A class as a pass takes it up. -/
structure Ready (n : String) (c : LocalClass) (s : Cluster) : Prop where
  calm : s.Calm
  stored : s.localClasses.get? n = some c
  named : c.metadata.name = some n
  printable : ∀ bindings, resolved s.groups.values c = .ok bindings → ∀ b ∈ bindings, b.IsPrintable

/-- If the class of a name is stored, it is at rest. -/
def Rests (n : String) (s : Cluster) : Prop := s.Calm ∧ ∀ c, s.localClasses.get? n = some c → AtRest c s

/-- The class of a name is stored with a status; its finalizers are as they were. -/
def Records (n : String) (c : LocalClass) (st : ClassStatus) (s t : Cluster) : Prop :=
  ∃ c', Rewrites n c' c s t ∧ c'.status = some st ∧ c'.hasFinalizer = c.hasFinalizer

namespace Ready

theorem rewrites (h : Ready n c s) (hr : Rewrites n c' c s t) : Ready n c' t where
  calm := ⟨hr.failures.trans h.calm.failures, hr.storageClasses ▸ h.calm.storageClasses⟩
  stored := hr.stored
  named := hr.restates.name.trans h.named
  printable bindings hb := h.printable bindings (by rw [← hr.restates.resolved, ← hr.groups, hb])

theorem name (h : Ready n c s) : c.name = n := Metadata.nameOrUnknown_of_name h.named

theorem key (h : Ready n c s) : Resource.key c = n := Resource.key_of_name h.named

theorem rests (h : Ready n c s) (hrest : AtRest c s) : Rests n s :=
  ⟨h.calm, fun a ha => by
    obtain rfl := Option.some.inj (h.stored.symm.trans ha)
    exact hrest⟩

/-- A write of the class that keeps what is declared. -/
theorem replaceLocalClass (h : Ready n c s) (hlive : c.isBeingDeleted = false) {marked : LocalClass}
    (hm : Restates marked c) (hv : marked.metadata.resourceVersion = c.metadata.resourceVersion) :
    ∃ c' t, s.answer (.replaceLocalClass marked) = (.ok c', t) ∧ Rewrites n c' c s t ∧
      c'.hasFinalizer = marked.hasFinalizer := by
  have hkey : Resource.key marked = n := Resource.key_of_name (hm.name.trans h.named)
  have hcurrent : isCurrent c marked = true := by
    have hself := isCurrent_self c
    simp only [isCurrent, Resource.metadata] at hself ⊢
    rwa [hv]
  have hanswer := answer_replaceLocalClass (c := marked) h.calm.failures (hkey.symm ▸ h.stored) hcurrent
  rw [hkey] at hanswer
  exact ⟨_, _, hanswer, ⟨⟨hm.name, rfl, hm.spec⟩, get?_settled_of_live hlive, rfl, rfl, rfl⟩, rfl⟩

/-- A creation of the storage class, whose name is free. -/
theorem createStorageClass (h : Ready n c s) {sc : StorageClass} (hsc : IsMaterialization n sc)
    (hfree : s.storageClasses.get? n = none) :
    ∃ sc' t, s.answer (.createStorageClass sc) = (.ok sc', t) ∧ Ready n c t ∧ t.groups = s.groups ∧
      t.storageClasses.get? n = some sc' ∧ IsMaterialization n sc' ∧ sc'.parameters = sc.parameters := by
  have hanswer := answer_createStorageClass h.calm.failures (hsc.key.symm ▸ hfree)
  rw [hsc.key] at hanswer
  refine ⟨stamped sc s.nextVersion none, _, hanswer, ⟨⟨h.calm.failures, ?_⟩, h.stored, h.named, h.printable⟩, rfl, ?_,
    ⟨hsc.name, hsc.finalizers, hsc.provisioner⟩, rfl⟩
  · exact h.calm.storageClasses.insert_of_key ((key_stamped ..).trans hsc.key)
  · rw [NameMap.get?_insert, if_pos rfl]

/-- A write of the status. -/
theorem replaceLocalClassStatus (h : Ready n c s) (hlive : c.isBeingDeleted = false) (st : ClassStatus) :
    ∃ c' t, s.answer (.replaceLocalClassStatus { c with status := some st }) = (.ok c', t) ∧ Rewrites n c' c s t ∧
      c'.status = some st ∧ c'.hasFinalizer = c.hasFinalizer := by
  have hkey : Resource.key { c with status := some st } = n := h.key
  have hanswer := answer_replaceLocalClassStatus (c := { c with status := some st }) h.calm.failures
    (hkey.symm ▸ h.stored) (isCurrent_self c)
  rw [hkey] at hanswer
  exact ⟨_, _, hanswer, ⟨⟨rfl, rfl, rfl⟩, get?_settled_of_live hlive, rfl, rfl, rfl⟩, rfl, rfl⟩

end Ready

namespace Pass

theorem alone_setStatus (h : Ready n c s) (hlive : c.isBeingDeleted = false) (st : ClassStatus) :
    (setStatus c st).Alone (fun r t => (∃ c', r = .ok c') ∧ Records n c st s t) s := by
  unfold setStatus
  split
  · next hst => exact ⟨⟨c, rfl⟩, c, ⟨.refl c, h.stored, rfl, rfl, rfl⟩, hst, rfl⟩
  · obtain ⟨c', t, hanswer, hr, hst, hfin⟩ := h.replaceLocalClassStatus hlive st
    rw [← Routine.bind_pure_right (Routine.call _)]
    exact .call_bind hanswer ⟨⟨c', rfl⟩, c', hr, hst, hfin⟩

theorem alone_abandon (h : Ready n c s) (hlive : c.isBeingDeleted = false) (e : Fault) :
    (abandon c e).Alone (fun _ => Records n c (.failed e.statusReason) s) s := by
  refine .bind (q := fun _ => Records n c (.failed e.statusReason) s) ?_ fun _ _ ht => ht
  refine .bind (alone_setStatus h hlive _) fun r t ⟨⟨c', hr⟩, ht⟩ => ?_
  subst hr
  exact ht

theorem alone_succeed (h : Ready n c s) (hlive : c.isBeingDeleted = false) :
    (succeed c).Alone (fun _ => Records n c .created s) s := by
  refine .bind (alone_setStatus h hlive _) fun r t ⟨⟨c', hr⟩, ht⟩ => ?_
  subst hr
  exact ht

end Pass

/-! ### Creation -/

/-- The class of a storage class that is as it should be is at rest. -/
theorem atRest_of_built (h : Ready n c s) (hlive : c.isBeingDeleted = false) (hst : c.status = some .created)
    {sc : StorageClass} (hsc : s.storageClasses.get? n = some sc) (hname : sc.metadata.name = some n)
    (hm : sc.isManaged = true) {bindings : List Binding} {classes : List StorageClass}
    (hjudge : Pass.judge c s.groups.values classes = .ok bindings) (hd : drifted sc c bindings = .ok false) :
    AtRest c s := by
  have hf : findClass? s.storageClasses.values c.name = some sc := by
    rw [h.name]
    exact (findClass?_values_eq_some_iff h.calm.storageClasses).2 ⟨hsc, hname⟩
  have hb := (Pass.judge_eq_ok_iff.1 hjudge).1
  have hforeign : Admission.foreignClass? c s.storageClasses.values = none := by
    unfold Admission.foreignClass?
    rw [h.name, NameMap.find?_values fun k sc' hk hn => ?_]
    · rw [hsc, Option.filter_some_neg (by simp [hm])]
    · rw [Bool.and_eq_true] at hn
      rw [← h.calm.storageClasses k sc' hk, Resource.key_of_name (a := sc') (beq_iff_eq.1 hn.1)]
  have hjudge' := Pass.judge_of_foreignClass hjudge hforeign
  by_cases hsel : c.usesSelector = true
  · exact .inOrder sc ⟨hlive, sc, hf, hm, .inl hsel⟩
      (Pass.revise_eq_ok_iff.2 ⟨bindings, hjudge', hf, .inl ⟨rfl, hd⟩⟩) hst
  · have hb' : resolved [] c = .ok bindings := (resolved_of_usesSelector (Bool.of_not_eq_true hsel) [] _).trans hb
    have hfail : c.isFailed = false := by simp [LocalClass.isFailed, LocalClass.phase, hst, ClassStatus.created]
    exact .idle ⟨hlive, sc, hf, hm, Bool.of_not_eq_true hsel, bindings, hb', hd, hfail⟩

namespace Pass

/-- The status of success, once the storage class is as it should be. -/
theorem alone_succeed_of_built (h : Ready n c s) (hlive : c.isBeingDeleted = false) {sc : StorageClass}
    (hsc : s.storageClasses.get? n = some sc) (hname : sc.metadata.name = some n) (hm : sc.isManaged = true)
    {bindings : List Binding} {classes : List StorageClass}
    (hjudge : judge c s.groups.values classes = .ok bindings) (hd : drifted sc c bindings = .ok false) :
    (succeed c).Alone (fun _ => Rests n) s := by
  refine (alone_succeed h hlive).mono fun _ t ⟨c', hr, hst, _⟩ => (h.rewrites hr).rests ?_
  have hjudge' : judge c' t.groups.values classes = .ok bindings := by rw [hr.restates.judge, hr.groups, hjudge]
  exact atRest_of_built (h.rewrites hr) (hr.restates.isBeingDeleted.trans hlive) hst (hr.storageClasses ▸ hsc) hname hm
    hjudge' ((hr.restates.drifted sc bindings).trans hd)

/-- A creation of the storage class of a class that has the finalizer. -/
theorem alone_createClass (h : Ready n c s) (hlive : c.isBeingDeleted = false) (hfin : c.hasFinalizer = true)
    (hf : findClass? s.storageClasses.values n = none) :
    (createClass n c s.storageClasses.values).Alone (fun _ => Rests n) s := by
  have hfinds : Finds c s.storageClasses.values .create := ⟨hlive, h.name.symm ▸ hf⟩
  rw [createClass_eq]
  refine .call_bind (answer_listVolumeGroups h.calm.failures) ?_
  dsimp only
  cases hdraft : draft c s.groups.values s.storageClasses.values with
  | error e =>
    refine (alone_abandon h hlive e).mono fun _ t ⟨c', hr, hst, hfin'⟩ => (h.rewrites hr).rests ?_
    refine .undraftable e ?_ (hfin'.trans hfin) ?_ hst
    · rw [hr.storageClasses]
      exact ⟨hr.restates.isBeingDeleted.trans hlive, hr.restates.name_eq.symm ▸ hfinds.2⟩
    · rw [hr.groups, hr.storageClasses]
      exact hr.restates.draft_eq_error hdraft
  | ok desired =>
    dsimp only
    rw [hf]
    obtain ⟨bindings, lvm, hjudge, hlvm, rfl⟩ := draft_eq_ok hdraft
    have hsc := isMaterialization_storageClass c lvm bindings
    rw [h.name] at hsc
    cases htaken : s.storageClasses.get? n with
    | some sc =>
      -- the key is taken, though no storage class has the name
      refine .call_bind (answer_createStorageClass_of_taken h.calm.failures (hsc.key.symm ▸ htaken)) ?_
      refine (Ready.rests (s := s.bump) ⟨⟨h.calm.failures, h.calm.storageClasses⟩, h.stored, h.named, h.printable⟩ ?_)
      exact .taken _ sc hfinds hfin hdraft (hsc.key.symm ▸ htaken)
    | none =>
      obtain ⟨sc', t, hanswer, ht, hgroups, hget, hsc', hparams⟩ := h.createStorageClass hsc htaken
      have hb := (judge_eq_ok_iff.1 hjudge).1
      refine .call_bind hanswer (alone_succeed_of_built ht hlive hget hsc'.name hsc'.isManaged (hgroups ▸ hjudge) ?_)
      exact drifted_eq_false hlvm hb (h.printable _ hb) hparams

theorem alone_create (h : Ready n c s) (hlive : c.isBeingDeleted = false)
    (hf : findClass? s.storageClasses.values n = none) :
    (create c s.storageClasses.values).Alone (fun _ => Rests n) s := by
  cases hfin : c.hasFinalizer with
  | true =>
    rw [create_of_hasFinalizer hfin, h.name]
    exact alone_createClass h hlive hfin hf
  | false =>
    -- the finalizer comes first
    let marked : LocalClass := { c with metadata := c.metadata.addFinalizer Marks.controllerFinalizer }
    have hrestates : Restates marked c := ⟨rfl, rfl, rfl⟩
    have hmarked : marked.hasFinalizer = true := Metadata.hasFinalizer_addFinalizer _ _
    obtain ⟨c', t, hanswer, hr, hfin'⟩ := h.replaceLocalClass hlive hrestates rfl
    rw [create_of_not_hasFinalizer hfin rfl]
    refine .call_bind hanswer ?_
    dsimp only
    rw [h.name, ← hr.storageClasses]
    exact alone_createClass (h.rewrites hr) (hr.restates.isBeingDeleted.trans hlive) (hfin'.trans hmarked)
      (hr.storageClasses ▸ hf)

end Pass

/-! ### Taking the storage class away -/

/-- The storage class of a name is gone, and only storage classes have changed. -/
structure Clears (n : String) (s t : Cluster) : Prop where
  calm : t.Calm
  gone : t.storageClasses.get? n = none
  localClasses : t.localClasses = s.localClasses
  groups : t.groups = s.groups

theorem Ready.clears (h : Ready n c s) (ht : Clears n s t) : Ready n c t where
  calm := ht.calm
  stored := ht.localClasses ▸ h.stored
  named := h.named
  printable := ht.groups ▸ h.printable

namespace Pass

/-- A managed storage class that only the controller holds goes at once. -/
theorem alone_deleteClass (h : s.Calm) {sc : StorageClass} (hsc : s.storageClasses.get? n = some sc)
    (hname : sc.metadata.name = some n) (hm : sc.isManaged = true)
    (hfin : sc.metadata.finalizerList ⊆ Marks.controllerFinalizers) :
    (deleteClass sc).Alone (fun r t => r = .ok () ∧ Clears n s t) s := by
  have hbare : sc.metadata.foreignFinalizers = [] := by
    rw [Metadata.foreignFinalizers, ← Metadata.finalizerList_removeFinalizers_eq]
    exact Metadata.finalizerList_removeFinalizers hfin
  refine (drops_deleteClass h hsc hname hm).mono fun r t ⟨hr, ht⟩ => ⟨hr, ht.calm, ?_, ht.localClasses, ht.groups⟩
  exact ht.left.eq_none hbare

/-! ### Update -/

/-- Another storage class takes the place of one. -/
theorem alone_recreate (h : Ready n c s) {sc desired : StorageClass} (hsc : s.storageClasses.get? n = some sc)
    (hname : sc.metadata.name = some n) (hm : sc.isManaged = true)
    (hfin : sc.metadata.finalizerList ⊆ Marks.controllerFinalizers) (hdesired : IsMaterialization n desired) :
    (recreate sc desired).Alone (fun r t => r = .ok () ∧ Ready n c t ∧ t.groups = s.groups ∧
      ∃ sc', t.storageClasses.get? n = some sc' ∧ IsMaterialization n sc' ∧ sc'.parameters = desired.parameters) s := by
  refine .bind (alone_deleteClass h.calm hsc hname hm hfin) fun r t ⟨hr, ht⟩ => ?_
  subst hr
  obtain ⟨sc', u, hanswer, hu, hgroups, hget, hsc', hparams⟩ := (h.clears ht).createStorageClass hdesired ht.gone
  exact .call_bind hanswer ⟨rfl, hu, hgroups.trans ht.groups, sc', hget, hsc', hparams⟩

theorem alone_update (h : Ready n c s) (hflow : Finds c s.storageClasses.values .update)
    (hfin : ∀ sc, s.storageClasses.get? n = some sc → sc.metadata.name = some n →
      sc.metadata.finalizerList ⊆ Marks.controllerFinalizers) :
    (update c s.storageClasses.values).Alone (fun _ => Rests n) s := by
  have hlive := hflow.1
  refine .call_bind (answer_listVolumeGroups h.calm.failures) ?_
  dsimp only
  cases hrev : revise c s.groups.values s.storageClasses.values with
  | error e =>
    refine (alone_abandon h hlive e).mono fun _ t ⟨c', hr, hst, _⟩ => (h.rewrites hr).rests ?_
    have hfail : c'.isFailed = true := by simp [LocalClass.isFailed, LocalClass.phase, hst, ClassStatus.failed]
    refine .irreparable e ?_ ?_ hst
    · rw [hr.storageClasses]
      exact hr.restates.finds_update hfail hflow
    · rw [hr.groups, hr.storageClasses]
      exact hr.restates.revise_eq_error hrev
  | ok r =>
    obtain ⟨current, r⟩ := r
    obtain ⟨bindings, hjudge, hf, hr⟩ := revise_eq_ok_iff.1 hrev
    obtain ⟨-, current', hf', hm, -⟩ := hflow
    obtain rfl := Option.some.inj (hf.symm.trans hf')
    rw [h.name] at hf
    obtain ⟨hsc, hname⟩ := (findClass?_values_eq_some_iff h.calm.storageClasses).1 hf
    rcases hr with ⟨rfl, hd⟩ | ⟨sc, rfl, -, hrep⟩
    · exact alone_succeed_of_built h hlive hsc hname hm hjudge hd
    · obtain ⟨lvm, hlvm, rfl⟩ := replacement_eq_ok hrep
      have hnew := (isMaterialization_storageClass c lvm bindings).keepAnnotations current
      rw [h.name] at hnew
      have hb := (judge_eq_ok_iff.1 hjudge).1
      refine .bind (alone_recreate h hsc hname hm (hfin current hsc hname) hnew)
        fun r t ⟨hr, ht, hgroups, sc', hget, hsc', hparams⟩ => ?_
      subst hr
      refine alone_succeed_of_built ht hlive hget hsc'.name hsc'.isManaged (hgroups ▸ hjudge) ?_
      exact drifted_eq_false hlvm hb (h.printable _ hb)
        (hparams.trans (Materialization.parameters_keepAnnotations _ current))

/-! ### Deletion -/

/-- A class that is being deleted is at rest once the controller has let go of it. -/
theorem alone_release (h : Ready n c s) (hdeleted : c.isBeingDeleted = true)
    (hclass : ∀ current, findClass? s.storageClasses.values n = some current → current.isManaged = false) :
    (release c).Alone (fun _ => Rests n) s := by
  cases hany : c.metadata.hasAnyFinalizer Marks.controllerFinalizers with
  | false =>
    rw [release_of_hasAnyFinalizer hany]
    exact h.rests (.released hdeleted hany (by rwa [h.name]))
  | true =>
    let released : LocalClass := { c with metadata := c.metadata.removeFinalizers Marks.controllerFinalizers }
    have hkey : Resource.key released = n := h.key
    have hanswer := answer_replaceLocalClass (c := released) h.calm.failures (hkey.symm ▸ h.stored) (isCurrent_self c)
    rw [hkey] at hanswer
    unfold release LocalClass.removeFinalizer
    rw [hany]
    refine .call_bind hanswer ⟨⟨h.calm.failures, h.calm.storageClasses⟩, fun c₁ hc₁ => ?_⟩
    obtain rfl := get?_settled_self hc₁
    refine .released hdeleted (Metadata.hasAnyFinalizer_removeFinalizers _ _) fun current hf => hclass current ?_
    rw [← h.name]
    exact hf

theorem alone_delete (h : Ready n c s) (hdeleted : c.isBeingDeleted = true)
    (hfin : ∀ sc, s.storageClasses.get? n = some sc → sc.metadata.name = some n →
      sc.metadata.finalizerList ⊆ Marks.controllerFinalizers) :
    (delete c s.storageClasses.values).Alone (fun _ => Rests n) s := by
  by_cases hclass : ∀ current, findClass? s.storageClasses.values n = some current → current.isManaged = false
  · rw [delete_of_unmanaged (by rwa [h.name])]
    exact alone_release h hdeleted hclass
  · obtain ⟨current, hf, hm⟩ : ∃ current, findClass? s.storageClasses.values n = some current ∧
        current.isManaged = true := by simpa using hclass
    obtain ⟨hsc, hname⟩ := (findClass?_values_eq_some_iff h.calm.storageClasses).1 hf
    unfold delete
    simp only [h.name, hf, hm, Bool.not_true, Bool.false_eq_true, if_false]
    refine .bind (alone_deleteClass h.calm hsc hname hm (hfin current hsc hname)) fun r t ⟨hr, ht⟩ => ?_
    subst hr
    refine alone_release (h.clears ht) hdeleted fun current hf => ?_
    have hsc := ((findClass?_values_eq_some_iff ht.calm.storageClasses).1 hf).1
    simp [ht.gone] at hsc

end Pass

/-! ### The pass -/

/-- A pass leaves its class at rest. -/
theorem rests_reconcile (h : Ready n c s)
    (hfin : ∀ sc, s.storageClasses.get? n = some sc → sc.metadata.name = some n →
      sc.metadata.finalizerList ⊆ Marks.controllerFinalizers) :
    (reconcile c).Alone (fun _ => Rests n) s := by
  rw [Pass.reconcile_eq]
  refine .call_bind (answer_listStorageClasses h.calm.failures) ?_
  dsimp only
  cases hflow : identifyFlow c s.storageClasses.values with
  | error e =>
    refine Pass.alone_refuse hflow ?_
    have hlive := isBeingDeleted_of_identifyFlow_eq_error hflow
    refine (Pass.alone_abandon h hlive e).mono fun _ t ⟨c', hr, hst, _⟩ => (h.rewrites hr).rests (.refused e ?_ hst)
    rw [hr.storageClasses]
    exact hr.restates.identifyFlow_eq_error hflow
  | ok flow =>
    have hfinds := finds_of_identifyFlow hflow
    refine Pass.alone_proceed hfinds ?_
    cases flow with
    | create => exact Pass.alone_create h hfinds.1 (h.name ▸ hfinds.2)
    | update => exact Pass.alone_update h hfinds hfin
    | delete => exact Pass.alone_delete h hfinds hfin
    | nothing => exact h.rests (.idle hfinds)

/-- **A second pass over a class writes nothing**, if nobody else writes in between: whatever the first pass has come
to, it leaves the class at rest. -/
theorem journal_second_pass {s : Simulation} (signal : StopSignal) (hs : s.cluster.Arises)
    (hf : s.cluster.failures = []) (hc : s.cluster.localClasses.get? n = some c) (hn : c.metadata.name = some n)
    (hprint : ∀ bindings, resolved s.cluster.groups.values c = .ok bindings → ∀ b ∈ bindings, b.IsPrintable)
    (hfin : ∀ sc, s.cluster.storageClasses.get? n = some sc → sc.metadata.name = some n →
      sc.metadata.finalizerList ⊆ Marks.controllerFinalizers) :
    let first := s.perform signal [] (reconcile c)
    ∀ c₁, first.2.cluster.localClasses.get? n = some c₁ →
      (first.2.perform signal [] (reconcile c₁)).2.cluster.journal = first.2.cluster.journal := by
  intro first c₁ hc₁
  have hready : Ready n c s.cluster := ⟨⟨hf, hs.tidy.storageClasses⟩, hc, hn, hprint⟩
  obtain ⟨hcalm, hrest⟩ : Rests n first.2.cluster :=
    Routine.Alone.run (s := { s with cancelled := false }) (rests_reconcile hready hfin)
  exact Routine.Alone.run (s := { first.2 with cancelled := false }) ((hrest c₁ hc₁).reconcile hcalm)

/-- The first pass over a class makes three writes, and the second one none. -/
theorem journal_second_pass_created :
    Sample.firstPass.2.cluster.journal =
        [.replaceLocalClass "local", .createStorageClass "local", .replaceLocalClassStatus "local"] ∧
    ∃ c₁, Sample.firstPass.2.cluster.localClasses.get? "local" = some c₁ ∧
      (Sample.firstPass.2.perform .ofRoutine [] (reconcile c₁)).2.cluster.journal =
        Sample.firstPass.2.cluster.journal := by
  have hstored : (Sample.firstPass.2.cluster.localClasses.get? "local").isSome = true := by decide +kernel
  obtain ⟨c₁, hc₁⟩ := Option.isSome_iff_exists.1 hstored
  have hb : resolved Sample.cluster.groups.values Sample.storedClass = .ok [⟨"vg-1", none⟩] :=
    Except.eq_ok_of_toOption (by decide +kernel)
  have hjournal := journal_second_pass (n := "local") (c := Sample.storedClass) (s := { cluster := Sample.cluster })
    .ofRoutine Sample.arises_cluster (by decide +kernel) (by decide +kernel) (by decide +kernel)
    (fun bindings hbindings b hmem => by
      obtain rfl := Except.ok.inj (hb.symm.trans hbindings)
      obtain rfl := List.mem_singleton.1 hmem
      exact ⟨by decide, by simp⟩)
    (fun sc hsc => by
      have hnone : Sample.cluster.storageClasses.get? "local" = none := by decide +kernel
      simp [hnone] at hsc)
  have e : Sample.firstPass = ({ cluster := Sample.cluster } : Simulation).perform .ofRoutine []
      (reconcile Sample.storedClass) := by rw [Sample.firstPass]
  rw [← e] at hjournal
  exact ⟨by decide +kernel, c₁, hc₁, hjournal c₁ hc₁⟩

end LocalVolumes
