import LocalVolumes.Proofs.Treatment
import LocalVolumes.Proofs.Wakefulness

/-!
# LocalVolumes.Proofs.Visibility — a pass that fails says why

A pass that fails records its failure with the class before it ends, with the reason of the very failure that it ends
with.  Three calls are silent when they fail: the first look at the storage classes, the record itself, and the write
that puts the finalizer on the class before its storage class is made.  The class is there to be read afterwards, unless
it was being deleted with no finalizer left: then the record is the write with which it goes.
-/

namespace LocalVolumes

open Cluster

/-- Whether a pass that fails by a call says nothing of it: it has not looked at anything yet, it cannot write the
record, or it cannot put the finalizer on the class. -/
def Call.isSilent : Call → Bool
  | .listStorageClasses => true
  | .replaceLocalClassStatus _ => true
  | .replaceLocalClass c => c.hasFinalizer
  | _ => false

/-- A call that failed is not silent about it. -/
def IsHeard (f : Call × Fault) : Prop := f.1.isSilent = false

/-- The class that is stored under a name has the name and the status of a copy.  If the deletion of the class was asked
for and it has no finalizers, it may vanish. -/
structure Mirrors (n : String) (vanishes : Prop) (c : LocalClass) (s : Cluster) : Prop where
  key : Resource.key c = n
  stored : ∃ stored, s.localClasses.get? n = some stored ∧ stored.status = c.status ∧
    (stored.metadata.isBeingDeleted = true → stored.metadata.finalizerList = [] → vanishes)

/-- The class of a name has a status, or it has vanished. -/
def EndsWith (n : String) (vanishes : Prop) (status : ClassStatus) (s : Cluster) : Prop :=
  HasStatus n status s ∨ vanishes ∧ s.localClasses.get? n = none

/-- A failure is recorded with the class. -/
def SaysWhy (n : String) (vanishes : Prop) {α : Type} (r : Except Fault α) (s : Cluster) : Prop :=
  ∀ e, r = .error e → EndsWith n vanishes (.failed e.statusReason) s

variable {n : String} {vanishes : Prop} {c : LocalClass} {status : ClassStatus} {s s' : Cluster} {α β : Type}

theorem EndsWith.may (h : EndsWith n vanishes status s) (hr : (leavesClass n).may s s') :
    EndsWith n vanishes status s' := h.imp (fun hst => hst.may hr) fun ⟨hv, hgone⟩ => ⟨hv, hr.trans hgone⟩

theorem SaysWhy.may {r : Except Fault α} (h : SaysWhy n vanishes r s) (hr : (leavesClass n).may s s') :
    SaysWhy n vanishes r s' := fun e he => (h e he).may hr

theorem saysWhy_ok (a : α) (s : Cluster) : SaysWhy n vanishes (.ok a) s := fun _ he => by cases he

theorem Mirrors.may (h : Mirrors n vanishes c s) (hr : (leavesClass n).may s s') : Mirrors n vanishes c s' := by
  obtain ⟨stored, hstored, hst, hv⟩ := h.stored
  exact ⟨h.key, stored, hr.trans hstored, hst, hv⟩

/-! ### Writes of the class -/

/-- A write of the status leaves the class with it, or without finalizers. -/
theorem Mirrors.replaceLocalClassStatus (h : Mirrors n vanishes c s) {c' : LocalClass}
    (hs : s.Serves (.replaceLocalClassStatus { c with status := some status }) (.ok c') s') :
    EndsWith n vanishes status s' := by
  obtain ⟨stored, hstored, -, hv⟩ := h.stored
  rcases hs.replaceLocalClassStatus with ⟨⟨e, he⟩, -⟩ | ⟨found, hfound, -, -, rfl⟩
  · cases he
  · have hkey : Resource.key { c with status := some status } = n := h.key
    rw [hkey] at hfound ⊢
    obtain rfl := Option.some.inj (hstored.symm.trans hfound)
    rcases get?_settled_cases s.localClasses n (stamped (takeClassStatus stored { c with status := some status })
      s.nextVersion stored.metadata.deletionTimestamp) with hstays | ⟨hdeleted, hnone, hgone⟩
    · exact .inl ⟨_, hstays, rfl⟩
    · exact .inr ⟨hv hdeleted hnone, hgone⟩

/-- The class with its finalizer is stored as the answer says. -/
theorem Mirrors.addFinalizer (h : Mirrors n vanishes c s) {c' : LocalClass}
    (hs : s.Serves (.replaceLocalClass c.addFinalizer.1) (.ok c') s') : Mirrors n vanishes c' s' := by
  have hkey : Resource.key c.addFinalizer.1 = n := by
    unfold LocalClass.addFinalizer
    split <;> exact h.key
  have hfinalizers : c.addFinalizer.1.metadata.finalizerList ≠ [] := by
    unfold LocalClass.addFinalizer
    split
    · next hhas => exact List.ne_nil_of_mem (List.contains_iff_mem.1 hhas)
    · simp [Metadata.addFinalizer, Metadata.finalizerList]
  rcases hs.replaceLocalClass with ⟨⟨e, he⟩, -⟩ | ⟨stored, -, -, hc', rfl⟩
  · cases he
  · obtain rfl := Except.ok.inj hc'
    rw [hkey]
    exact ⟨(key_stamped ..).trans hkey, _, get?_settled_of_finalizer hfinalizers, rfl,
      fun _ hnone => absurd hnone hfinalizers⟩

/-! ### Passes -/

/-- What a routine comes to if no failed call is silent about it, while others leave the class alone. -/
def Speaks (n : String) (post : α → Cluster → Prop) (t : Routine α) (s : Cluster) : Prop :=
  t.Attains (leavesClass n) IsHeard post s

namespace Mirrors

/-- The status can be written, or the class has it already. -/
theorem speaks_setStatus (h : Mirrors n vanishes c s) (status : ClassStatus) :
    Speaks n (fun r s' => isOk r = true ∧ EndsWith n vanishes status s') (Pass.setStatus c status) s := by
  unfold Pass.setStatus
  split
  · next hst =>
    obtain ⟨stored, hstored, hsame, -⟩ := h.stored
    have hends : EndsWith n vanishes status s := .inl ⟨stored, hstored, hsame.trans hst⟩
    exact .done fun s' hr => ⟨rfl, hends.may hr⟩
  · rw [← Routine.bind_pure_right (Routine.call _)]
    refine .call fun s₁ r s₂ hr hs hheard => ?_
    cases r with
    | error e => exact absurd (hheard e rfl).symm Bool.false_ne_true
    | ok c' =>
      have hends : EndsWith n vanishes status s₂ := (h.may hr).replaceLocalClassStatus hs
      exact .done fun s₃ hr₃ => ⟨rfl, hends.may hr₃⟩

theorem speaks_abandon (h : Mirrors n vanishes c s) (e : Fault) : Speaks n (SaysWhy n vanishes) (Pass.abandon c e) s := by
  have hfail : Speaks n (fun e' s' => SaysWhy n vanishes (.error e' : Except Fault Outcome) s') (Pass.fail c e) s := by
    refine (h.speaks_setStatus (.failed e.statusReason)).bind fun r s₁ ⟨hok, hends⟩ => ?_
    cases r with
    | error e' => cases hok
    | ok c' =>
      refine .done fun s₂ hr e' he => ?_
      obtain rfl := Except.error.inj he
      exact hends.may hr
  exact hfail.bind fun e' s₁ hsays => .done fun s₂ hr => hsays.may hr

theorem speaks_succeed (h : Mirrors n vanishes c s) : Speaks n (SaysWhy n vanishes) (Pass.succeed c) s := by
  refine (h.speaks_setStatus .created).bind fun r s₁ ⟨hok, _⟩ => ?_
  cases r with
  | error e => cases hok
  | ok c' => exact .done fun s₂ _ => saysWhy_ok _ s₂

end Mirrors

theorem LocalClass.hasFinalizer_addFinalizer (c : LocalClass) : c.addFinalizer.1.hasFinalizer = true := by
  unfold LocalClass.addFinalizer
  split
  · next hhas => exact hhas
  · exact Metadata.hasFinalizer_addFinalizer _ _

/-- **Whatever a pass does to its class, it says why it fails.** -/
theorem Treats.speaks {t : Routine (Except Fault Outcome)} (h : Treats c t) (hc : Mirrors n vanishes c s) :
    Speaks n (SaysWhy n vanishes) t s := by
  induction h generalizing s with
  | ends c o => exact .done fun s₁ _ => saysWhy_ok _ s₁
  | succeeds c => exact hc.speaks_succeed
  | abandons c e => exact hc.speaks_abandon e
  | @aside c w f hw _ ih =>
    refine .call fun s₁ r s₂ hr hs _ => ih r ((hc.may hr).may ?_)
    exact leavesClass_of_eq (hs.frame.localClasses hw)
  | @marks c f _ _ ih =>
    refine .call fun s₁ r s₂ hr hs hheard => ?_
    cases r with
    | error e =>
      -- the pass ends without a word, which is the call that is left out
      exact absurd c.hasFinalizer_addFinalizer (Bool.eq_false_iff.1 (hheard e rfl))
    | ok stored => exact ih stored ((hc.may hr).addFinalizer hs)
  | @lets c f _ hend _ ih =>
    refine .call fun s₁ r s₂ hr hs _ => ?_
    cases r with
    | ok stored =>
      -- the class may be gone with this write, but the pass is done and has nothing to say
      rw [hend stored]
      exact .done fun s₃ _ => saysWhy_ok _ s₃
    | error e =>
      rcases hs.replaceLocalClass with ⟨-, hrest⟩ | ⟨stored, -, -, he, -⟩
      · obtain ⟨hkey, hstored⟩ := (hc.may hr).may (leavesClass_of_eq hrest.localClasses)
        exact ih e ⟨hkey, hstored⟩
      · cases he

theorem Mirrors.speaks_reconcile (h : Mirrors n vanishes c s) : Speaks n (SaysWhy n vanishes) (reconcile c) s := by
  rw [Pass.reconcile_eq]
  refine .call fun s₁ r s₂ hr hs hheard => ?_
  have h₂ : Mirrors n vanishes c s₂ := (h.may hr).may (leavesClass_of_eq (hs.frame.localClasses id))
  cases r with
  | error e => exact absurd (hheard e rfl).symm Bool.false_ne_true
  | ok classes =>
    dsimp only [Pass.proceed]
    split
    · exact .record (h₂.speaks_abandon _)
    · exact ((Treats.run _).speaks h₂).bind fun r s₃ hsays => .record (.done fun s₄ hr₄ => hsays.may hr₄)

/-- **A pass that fails says why.**  A pass runs over a class as it is stored, and nobody else touches the class
meanwhile.  If the pass fails, and no call that failed is silent about it, the class has the phase `Failed` and the
reason of this very failure; or its deletion was asked for and it had no finalizers, and it is gone. -/
theorem failure_is_recorded {s s' : Cluster} {c : LocalClass} {e : Fault} {failed : List (Call × Fault)}
    (hc : s.localClasses.get? (Resource.key c) = some c)
    (hrun : (reconcile c).withFailures.Progress (leavesClass (Resource.key c)) s (.done (.error e, failed)) s')
    (hheard : ∀ f ∈ failed, f.1.isSilent = false) :
    (∃ c', s'.localClasses.get? (Resource.key c) = some c' ∧ c'.phase = some .failed ∧
        c'.status.bind (·.reason) = some e.statusReason) ∨
      c.isBeingDeleted = true ∧ c.metadata.finalizerList = [] ∧ s'.localClasses.get? (Resource.key c) = none := by
  have hmirrors : Mirrors (Resource.key c) (c.isBeingDeleted = true ∧ c.metadata.finalizerList = []) c s :=
    ⟨rfl, c, hc, rfl, fun hdeleted hnone => ⟨hdeleted, hnone⟩⟩
  rcases hmirrors.speaks_reconcile.progress hrun hheard e rfl with ⟨c', hc', hst⟩ | ⟨⟨hdeleted, hnone⟩, hgone⟩
  · exact .inl ⟨c', hc', by simp [LocalClass.phase, hst, ClassStatus.failed], by simp [hst, ClassStatus.failed]⟩
  · exact .inr ⟨hdeleted, hnone, hgone⟩

namespace Sample

/-- The cluster with the class, in which an operation fails once. -/
def faultyCluster (op : Operation) : Cluster := cluster.intervene (.planFailure op (.internal "unreachable"))

/-- The first pass over the class there, with its failures. -/
@[irreducible] def faultyPass (op : Operation) : (Except Fault Outcome × List (Call × Fault)) × Simulation :=
  Simulation.run .ofRoutine [] (reconcile storedClass).withFailures { cluster := faultyCluster op } 0

theorem progress_faultyPass {op : Operation} {e : Fault} (h : (faultyPass op).1.1 = .error e) :
    (reconcile storedClass).withFailures.Progress (leavesClass "local") (faultyCluster op)
      (.done (.error e, (faultyPass op).1.2)) (faultyPass op).2.cluster := by
  rw [← h, faultyPass]
  exact Simulation.progress_run (leavesClass "local") .ofRoutine _ { cluster := faultyCluster op } 0

/-- The class that a call replaces. -/
def rewritten? : Call → Option LocalClass
  | .replaceLocalClass c => some c
  | _ => none

theorem exists_of_rewritten? {w : Call} (h : (rewritten? w).isSome = true) : ∃ c, w = .replaceLocalClass c := by
  cases w with
  | replaceLocalClass c => exact ⟨c, rfl⟩
  | _ => cases h

/-- The storage class cannot be made. -/
abbrev unmade : Operation := .createStorageClass "local"

/-- The finalizer cannot be put on the class. -/
abbrev unmarked : Operation := .replaceLocalClass "local"

end Sample

/-- The storage class cannot be made, and the class says so. -/
theorem failure_is_recorded_unmade :
    (Sample.faultyCluster Sample.unmade).localClasses.get? "local" = some Sample.storedClass ∧
      (Sample.faultyPass Sample.unmade).1.1 = .error (.internal "unreachable") ∧
      (∀ f ∈ (Sample.faultyPass Sample.unmade).1.2, f.1.isSilent = false) ∧
      ((∃ c', (Sample.faultyPass Sample.unmade).2.cluster.localClasses.get? "local" = some c' ∧
          c'.phase = some .failed ∧ c'.status.bind (·.reason) = some "unreachable") ∨
        Sample.storedClass.isBeingDeleted = true ∧ Sample.storedClass.metadata.finalizerList = [] ∧
          (Sample.faultyPass Sample.unmade).2.cluster.localClasses.get? "local" = none) := by
  have hstored : (Sample.faultyCluster Sample.unmade).localClasses.get? "local" = some Sample.storedClass := by
    decide +kernel
  have herror : (Sample.faultyPass Sample.unmade).1.1 = .error (.internal "unreachable") :=
    Sample.eq_error_of_fault? (by decide +kernel)
  have hheard : ∀ f ∈ (Sample.faultyPass Sample.unmade).1.2, f.1.isSilent = false := by decide +kernel
  exact ⟨hstored, herror, hheard,
    @failure_is_recorded _ _ Sample.storedClass _ _ hstored (Sample.progress_faultyPass herror) hheard⟩

/-- The finalizer cannot be put on the class, and the class does not say so. -/
theorem failure_is_kept_silent :
    ∃ (s s' : Cluster) (c : LocalClass) (e : Fault) (failed : List (Call × Fault)),
      s.localClasses.get? (Resource.key c) = some c ∧
      (reconcile c).withFailures.Progress (leavesClass (Resource.key c)) s (.done (.error e, failed)) s' ∧
      (∀ f ∈ failed, ∃ c', f.1 = .replaceLocalClass c') ∧
      ∃ c', s'.localClasses.get? (Resource.key c) = some c' ∧ c'.phase ≠ some .failed := by
  have hstored : (Sample.faultyCluster Sample.unmarked).localClasses.get? "local" = some Sample.storedClass := by
    decide +kernel
  have herror : (Sample.faultyPass Sample.unmarked).1.1 = .error (.internal "unreachable") :=
    Sample.eq_error_of_fault? (by decide +kernel)
  have hfailed : ∀ f ∈ (Sample.faultyPass Sample.unmarked).1.2, (Sample.rewritten? f.1).isSome = true := by
    decide +kernel
  have hsilent : (((Sample.faultyPass Sample.unmarked).2.cluster.localClasses.get? "local").any
      fun c => c.phase != some .failed) = true := by decide +kernel
  obtain ⟨c', hc', hphase⟩ := (Option.any_eq_true _ _).1 hsilent
  exact ⟨_, _, Sample.storedClass, _, _, hstored, Sample.progress_faultyPass herror,
    fun f hf => Sample.exists_of_rewritten? (hfailed f hf), c', hc', by simpa using hphase⟩

end LocalVolumes
