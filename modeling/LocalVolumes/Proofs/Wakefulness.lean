import LocalVolumes.Proofs.Decision
import LocalVolumes.Proofs.Failures
import LocalVolumes.Proofs.Relevance
import LocalVolumes.Proofs.Simulation

/-!
# LocalVolumes.Proofs.Wakefulness — a pass that fails for good leaves word of it

After some failures a pass is not run again until a change comes.  Such a failure is always found out by the pass
itself, about a class that is not being deleted, and it is recorded with the class before the pass ends: a failure of
the record itself is tried again.  A class with a recorded failure is concerned by every change of a group.
-/

namespace LocalVolumes

open Cluster

/-- What others may do while a pass over a name runs: anything but touch the class. -/
def leavesClass (n : String) : Rely where
  may s s' := s'.localClasses.get? n = s.localClasses.get? n
  refl _ := rfl
  trans h h' := h'.trans h

/-- A call that failed is tried again. -/
def IsRetried (f : Call × Fault) : Prop := f.2.action = .backOff

/-- What failed is tried again. -/
def Retried {α : Type} (r : Except Fault α) : Prop := ∀ e, r = .error e → e.action = .backOff

/-- The class of a name has the status. -/
def HasStatus (n : String) (status : ClassStatus) (s : Cluster) : Prop :=
  ∃ c, s.localClasses.get? n = some c ∧ c.status = some status

/-- What failed is tried again, or it is recorded with the class. -/
def LeavesWord (n : String) {α : Type} (r : Except Fault α) (s : Cluster) : Prop :=
  ∀ e, r = .error e → e.action = .backOff ∨ HasStatus n (.failed e.statusReason) s

/-- A class is stored under its name and is not being deleted. -/
structure IsLive (n : String) (c : LocalClass) (s : Cluster) : Prop where
  key : Resource.key c = n
  stored : s.localClasses.get? n = some c
  live : c.isBeingDeleted = false

variable {n : String} {c : LocalClass} {s s' : Cluster} {α β : Type} {post : α → Cluster → Prop}

theorem leavesClass_of_eq (h : s'.localClasses = s.localClasses) : (leavesClass n).may s s' :=
  congrArg (fun m : NameMap LocalClass => m.get? n) h

theorem HasStatus.may {status : ClassStatus} (h : HasStatus n status s) (hr : (leavesClass n).may s s') :
    HasStatus n status s' := by
  obtain ⟨c, hc, hst⟩ := h
  exact ⟨c, hr.trans hc, hst⟩

theorem LeavesWord.may {r : Except Fault α} (h : LeavesWord n r s) (hr : (leavesClass n).may s s') :
    LeavesWord n r s' := fun e he => (h e he).imp id fun hst => hst.may hr

theorem Retried.leavesWord {r : Except Fault α} (h : Retried r) (n : String) (s : Cluster) : LeavesWord n r s :=
  fun e he => .inl (h e he)

theorem retried_ok (a : α) : Retried (.ok a) := fun _ he => by cases he

theorem retried_error {e : Fault} (h : e.action = .backOff) : Retried (.error e : Except Fault α) :=
  fun _ he => Except.error.inj he ▸ h

theorem IsLive.may (h : IsLive n c s) (hr : (leavesClass n).may s s') : IsLive n c s' :=
  ⟨h.key, hr.trans h.stored, h.live⟩

/-! ### Writes of the class -/

/-- A write of the status that succeeds gives the class that status. -/
theorem IsLive.replaceLocalClassStatus (h : IsLive n c s) {status : ClassStatus} {c' : LocalClass}
    (hs : s.Serves (.replaceLocalClassStatus { c with status := some status }) (.ok c') s') :
    HasStatus n status s' := by
  rcases hs.replaceLocalClassStatus with ⟨⟨e, he⟩, -⟩ | ⟨stored, hstored, -, -, rfl⟩
  · cases he
  · have hkey : Resource.key { c with status := some status } = n := h.key
    rw [hkey, h.stored] at hstored
    obtain rfl := Option.some.inj hstored
    rw [HasStatus, hkey]
    exact ⟨_, get?_settled_of_live h.live, rfl⟩

/-- A write of all but the status that succeeds answers with what is stored then. -/
theorem IsLive.replaceLocalClass (h : IsLive n c s) {marked c' : LocalClass} (hkey : Resource.key marked = n)
    (hs : s.Serves (.replaceLocalClass marked) (.ok c') s') : IsLive n c' s' := by
  rcases hs.replaceLocalClass with ⟨⟨e, he⟩, -⟩ | ⟨stored, hstored, -, hc', rfl⟩
  · cases he
  · rw [hkey, h.stored] at hstored
    obtain rfl := Option.some.inj hstored
    obtain rfl := Except.ok.inj hc'
    rw [hkey]
    exact ⟨(key_stamped ..).trans hkey, get?_settled_of_live h.live, h.live⟩

/-! ### Passes -/

/-- What a routine comes to if every call that fails is tried again, while others leave the class alone. -/
def Watches (n : String) (post : α → Cluster → Prop) (t : Routine α) (s : Cluster) : Prop :=
  t.Attains (leavesClass n) IsRetried post s

theorem Watches.bind {t : Routine β} {f : β → Routine α} {q : β → Cluster → Prop} (h : Watches n q t s)
    (hf : ∀ b s', q b s' → Watches n post (f b) s') : Watches n post (t.bind f) s := Routine.Attains.bind h hf

theorem Watches.call {c : Call} {f : c.Result → Routine α}
    (h : ∀ s₁ r s₂, (leavesClass n).may s s₁ → s₁.Serves c r s₂ → Retried r → Watches n post (f r) s₂) :
    Watches n post ((Routine.call c).bind f) s := Routine.Attains.call h

/-- A call that leaves the local classes alone, and what follows it. -/
theorem Watches.aside {c : Call} {f : c.Result → Routine α} (hc : ¬ c.WritesLocalClass)
    (h : ∀ r s', (leavesClass n).may s s' → Retried r → Watches n post (f r) s') :
    Watches n post ((Routine.call c).bind f) s :=
  .call fun _ r s₂ hr hs hretried =>
    h r s₂ ((leavesClass n).trans hr (leavesClass_of_eq (hs.frame.localClasses hc))) hretried

namespace Pass

/-- A status that cannot be written is written again. -/
theorem watches_setStatus (n : String) (c : LocalClass) (status : ClassStatus) (s : Cluster) :
    Watches n (fun r s' => Retried r ∧ (IsLive n c s → isOk r = true → HasStatus n status s')) (setStatus c status) s := by
  unfold setStatus
  split
  · next hst => exact .done fun s' hr => ⟨retried_ok c, fun hlive _ => ⟨c, (hlive.may hr).stored, hst⟩⟩
  · rw [← Routine.bind_pure_right (Routine.call _)]
    refine .call fun s₁ r s₂ hr hs hretried => .done fun s₃ hr₃ => ⟨hretried, fun hlive hok => ?_⟩
    cases r with
    | error e => cases hok
    | ok c' => exact ((hlive.may hr).replaceLocalClassStatus hs).may hr₃

/-- A failure is recorded with the class. -/
theorem watches_abandon (h : IsLive n c s) (e : Fault) : Watches n (LeavesWord n) (abandon c e) s := by
  have hfail : Watches n (fun e' s' => LeavesWord n (.error e' : Except Fault Outcome) s') (fail c e) s := by
    refine (watches_setStatus n c (.failed e.statusReason) s).bind fun r s₁ ⟨hretried, hst⟩ => ?_
    cases r with
    | error e' => exact .done fun s₂ _ => (retried_error (hretried e' rfl)).leavesWord n s₂
    | ok c' =>
      refine .done fun s₂ hr e' he => .inr ?_
      rw [← Except.error.inj he]
      exact (hst h rfl).may hr
  exact hfail.bind fun e' s₁ hword => .done fun s₂ hr => hword.may hr

/-- A failure that is tried again stays so. -/
theorem watches_abandon_of_backOff (n : String) (c : LocalClass) {e : Fault} (he : e.action = .backOff) (s : Cluster) :
    Watches n (fun r _ => Retried r) (abandon c e) s := by
  have hfail : Watches n (fun e' _ => e'.action = .backOff) (fail c e) s := by
    refine (watches_setStatus n c (.failed e.statusReason) s).bind fun r s₁ ⟨hretried, _⟩ => ?_
    cases r with
    | error e' => exact .done fun s₂ _ => hretried e' rfl
    | ok c' => exact .done fun s₂ _ => he
  exact hfail.bind fun e' s₁ he' => .done fun s₂ _ => retried_error he'

theorem watches_succeed (n : String) (c : LocalClass) (s : Cluster) :
    Watches n (fun r _ => Retried r) (succeed c) s := by
  refine (watches_setStatus n c .created s).bind fun r s₁ ⟨hretried, _⟩ => ?_
  cases r with
  | error e => exact .done fun s₂ _ => retried_error (hretried e rfl)
  | ok c' => exact .done fun s₂ _ => retried_ok _

theorem watches_createClass (h : IsLive n c s) (name : String) (classes : List StorageClass) :
    Watches n (LeavesWord n) (createClass name c classes) s := by
  refine .aside id fun r s₁ hr₁ _ => ?_
  have h₁ := h.may hr₁
  cases r with
  | error e => exact watches_abandon h₁ _
  | ok inventory =>
    dsimp only
    split
    · exact watches_abandon h₁ _
    · split
      · exact .done fun s₂ _ => (retried_ok _).leavesWord n s₂
      · refine .aside id fun r s₂ hr₂ _ => ?_
        cases r with
        | ok _ => exact (watches_succeed n c s₂).mono fun r s₃ hretried => hretried.leavesWord n s₃
        | error e =>
          dsimp only
          split
          · exact .done fun s₃ _ => (retried_ok _).leavesWord n s₃
          · exact watches_abandon (h₁.may hr₂) e

theorem watches_create (h : IsLive n c s) (classes : List StorageClass) :
    Watches n (LeavesWord n) (create c classes) s := by
  cases hfin : c.hasFinalizer with
  | true =>
    rw [create_of_hasFinalizer hfin]
    exact watches_createClass h _ _
  | false =>
    have hkey : Resource.key { c with metadata := c.metadata.addFinalizer Marks.controllerFinalizer } = n := h.key
    rw [create_of_not_hasFinalizer hfin rfl]
    refine .call fun s₁ r s₂ hr hs hretried => ?_
    cases r with
    | error e => exact .done fun s₃ _ => (retried_error (hretried e rfl)).leavesWord n s₃
    | ok stored => exact watches_createClass ((h.may hr).replaceLocalClass hkey hs) _ _

/-- The class stays as it is while a storage class is taken away. -/
theorem watches_deleteClass (n : String) (current : StorageClass) (s : Cluster) :
    Watches n (fun _ => (leavesClass n).may s) (deleteClass current) s := by
  have hdelete {s₁ : Cluster} (hr₁ : (leavesClass n).may s s₁) : Watches n (fun _ => (leavesClass n).may s)
      (Routine.call (.deleteStorageClass (current.metadata.name.getD ""))) s₁ := by
    rw [← Routine.bind_pure_right (Routine.call _)]
    exact .aside id fun r s₂ hr₂ _ => .done fun s₃ hr₃ => (leavesClass n).trans ((leavesClass n).trans hr₁ hr₂) hr₃
  unfold deleteClass
  dsimp only
  split
  · exact .done fun s₁ hr₁ => hr₁
  · split
    · refine .aside id fun r s₁ hr₁ _ => ?_
      cases r with
      | error e => exact .done fun s₂ hr₂ => (leavesClass n).trans hr₁ hr₂
      | ok sc => exact hdelete hr₁
    · exact hdelete ((leavesClass n).refl s)

theorem watches_recreate (n : String) (current sc : StorageClass) (s : Cluster) :
    Watches n (fun _ => (leavesClass n).may s) (recreate current sc) s := by
  refine (watches_deleteClass n current s).bind fun r s₁ hr₁ => ?_
  cases r with
  | error e => exact .done fun s₂ hr₂ => (leavesClass n).trans hr₁ hr₂
  | ok u =>
    refine .aside id fun r s₂ hr₂ _ => ?_
    cases r <;> exact .done fun s₃ hr₃ => (leavesClass n).trans ((leavesClass n).trans hr₁ hr₂) hr₃

theorem watches_update (h : IsLive n c s) (classes : List StorageClass) :
    Watches n (LeavesWord n) (update c classes) s := by
  have hsucceed (s : Cluster) : Watches n (LeavesWord n) (succeed c) s :=
    (watches_succeed n c s).mono fun r s₁ hretried => hretried.leavesWord n s₁
  refine .aside id fun r s₁ hr₁ _ => ?_
  have h₁ := h.may hr₁
  cases r with
  | error e => exact watches_abandon h₁ _
  | ok inventory =>
    dsimp only
    split
    · exact watches_abandon h₁ _
    · exact hsucceed s₁
    · next current sc _ =>
      refine (watches_recreate n current sc s₁).bind fun r s₂ hr₂ => ?_
      cases r with
      | error e => exact watches_abandon (h₁.may hr₂) e
      | ok u => exact hsucceed s₂

/-- What fails of a deletion is tried again. -/
theorem watches_release (n : String) (c : LocalClass) (s : Cluster) :
    Watches n (fun r _ => Retried r) (release c) s := by
  unfold release LocalClass.removeFinalizer
  split
  · next released hrel =>
    refine .call fun s₁ r s₂ hr hs _ => ?_
    cases r with
    | ok _ => exact .done fun s₃ _ => retried_ok _
    | error e => exact watches_abandon_of_backOff n _ rfl s₂
  · exact .done fun s₁ _ => retried_ok _

theorem watches_delete (n : String) (c : LocalClass) (classes : List StorageClass) (s : Cluster) :
    Watches n (fun r _ => Retried r) (delete c classes) s := by
  unfold delete
  split
  · exact watches_release n c s
  · next current _ =>
    split
    · exact watches_release n c s
    · refine (watches_deleteClass n current s).bind fun r s₁ _ => ?_
      cases r with
      | ok u => exact watches_release n c s₁
      | error e => exact watches_abandon_of_backOff n c rfl s₁

theorem watches_proceed (hkey : Resource.key c = n) (hc : s.localClasses.get? n = some c)
    (classes : List StorageClass) : Watches n (LeavesWord n) (proceed c classes) s := by
  unfold proceed
  split
  · next e hflow =>
    exact .record (watches_abandon ⟨hkey, hc, isBeingDeleted_of_identifyFlow_eq_error hflow⟩ e)
  · next flow hflow =>
    refine Watches.bind (q := LeavesWord n) ?_ fun r s₁ hword => .record (.done fun s₂ hr => hword.may hr)
    have hfinds := finds_of_identifyFlow hflow
    cases flow with
    | create => exact watches_create ⟨hkey, hc, hfinds.1⟩ classes
    | update => exact watches_update ⟨hkey, hc, hfinds.1⟩ classes
    | delete => exact (watches_delete n c classes s).mono fun r s₁ hretried => hretried.leavesWord n s₁
    | nothing => exact .done fun s₁ _ => (retried_ok _).leavesWord n s₁

end Pass

theorem watches_reconcile (hkey : Resource.key c = n) (hc : s.localClasses.get? n = some c) :
    Watches n (LeavesWord n) (reconcile c) s := by
  rw [Pass.reconcile_eq]
  refine .aside id fun r s₁ hr hretried => ?_
  cases r with
  | error e => exact .done fun s₂ _ => (retried_error (hretried e rfl)).leavesWord n s₂
  | ok classes => exact Pass.watches_proceed hkey (hr.trans hc) classes

/-! ### The end of a pass -/

theorem isFailed_of_status {reason : String} (h : c.status = some (.failed reason)) : c.isFailed = true := by
  simp [LocalClass.isFailed, LocalClass.phase, h, ClassStatus.failed]

/-- **No failed pass goes to sleep unwatched.**  A pass runs over a class as it is stored, nobody else touches the class
meanwhile, and whichever calls fail do so in a way after which one tries again.  If the pass fails and is not run again
until a change comes, the class has the phase `Failed` and the reason of this failure, and it is among the classes that
the change of any group concerns. -/
theorem watched_of_awaitChange {interval : Nat} {s s' : Cluster} {c : LocalClass} {e : Fault}
    {failed : List (Call × Fault)} (hc : s.localClasses.get? (Resource.key c) = some c)
    (hrun : (reconcile c).withFailures.Progress (leavesClass (Resource.key c)) s (.done (.error e, failed)) s')
    (hfailed : ∀ f ∈ failed, f.2.action = .backOff) (he : errorPolicy interval e = .awaitChange) :
    ∃ c', s'.localClasses.get? (Resource.key c) = some c' ∧ c'.phase = some .failed ∧
      c'.status.bind (·.reason) = some e.statusReason ∧
      ∀ classes, c' ∈ classes → ∀ group, c'.name ∈ classesAffectedBy classes group := by
  have hword := (watches_reconcile rfl hc).progress hrun hfailed e rfl
  have haction : e.action ≠ .backOff := by
    intro hback
    simp [errorPolicy, hback] at he
  obtain ⟨c', hc', hst⟩ := hword.resolve_left haction
  refine ⟨c', hc', by simp [LocalClass.phase, hst, ClassStatus.failed], by simp [hst, ClassStatus.failed], ?_⟩
  intro classes hmem group
  exact mem_classesAffectedBy_iff.2 ⟨c', hmem, .inr (.inr (isFailed_of_status hst)), rfl⟩

namespace Sample

/-- A cluster with the class, but without its group. -/
def barrenCluster : Cluster := ({} : Cluster).intervene (.putLocalClass localClass)

/-- The class as it is stored there. -/
def barrenClass : LocalClass := Cluster.stamped localClass "1" none

/-- A pass over the class, with its failures. -/
@[irreducible] def refusedPass : (Except Fault Outcome × List (Call × Fault)) × Simulation :=
  Simulation.run .ofRoutine [] (reconcile barrenClass).withFailures { cluster := barrenCluster } 0

/-- What is wrong with the class. -/
def missingGroup : String := "Some of selected LVMVolumeGroups are nonexistent, LVG names: vg-1\n"

/-- What a pass fails with. -/
def fault? : Except Fault Outcome → Option Fault
  | .error e => some e
  | .ok _ => none

theorem eq_error_of_fault? {r : Except Fault Outcome} {e : Fault} (h : fault? r = some e) : r = .error e := by
  cases r with
  | error e' => exact congrArg Except.error (Option.some.inj h)
  | ok o => cases h

theorem refusedPass_fails : refusedPass.1 = (.error (.validation missingGroup), []) :=
  Prod.ext (eq_error_of_fault? (by decide +kernel)) (List.isEmpty_iff.1 (by decide +kernel))

end Sample

/-- The group of the class is missing: the class says so, and is concerned by every group that comes. -/
theorem watched_of_awaitChange_missing_group :
    Sample.barrenCluster.localClasses.get? "local" = some Sample.barrenClass ∧
      (reconcile Sample.barrenClass).withFailures.Progress (leavesClass "local") Sample.barrenCluster
        (.done (.error (.validation Sample.missingGroup), [])) Sample.refusedPass.2.cluster ∧
      errorPolicy 10000 (.validation Sample.missingGroup) = .awaitChange ∧
      ∃ c', Sample.refusedPass.2.cluster.localClasses.get? "local" = some c' ∧ c'.phase = some .failed ∧
        c'.status.bind (·.reason) = some Sample.missingGroup ∧ c'.name ∈ classesAffectedBy [c'] "vg-7" := by
  have hstored : Sample.barrenCluster.localClasses.get? "local" = some Sample.barrenClass := by decide +kernel
  have hrun := Simulation.progress_run (leavesClass "local") .ofRoutine (reconcile Sample.barrenClass).withFailures
    { cluster := Sample.barrenCluster } 0
  have e : Sample.refusedPass = Simulation.run .ofRoutine [] (reconcile Sample.barrenClass).withFailures
      { cluster := Sample.barrenCluster } 0 := by rw [Sample.refusedPass]
  rw [← e, Sample.refusedPass_fails] at hrun
  obtain ⟨c', hc', hphase, hreason, haffected⟩ :=
    @watched_of_awaitChange 10000 Sample.barrenCluster _ Sample.barrenClass _ _ hstored hrun
      (fun f hf => absurd hf List.not_mem_nil) rfl
  exact ⟨hstored, hrun, rfl, c', hc', hphase, hreason, haffected [c'] (List.mem_singleton_self c') "vg-7"⟩

end LocalVolumes
