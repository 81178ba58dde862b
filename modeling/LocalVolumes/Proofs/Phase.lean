import LocalVolumes.Proofs.Decision
import LocalVolumes.Proofs.Interference
import LocalVolumes.Proofs.Simulation

/-!
# LocalVolumes.Proofs.Phase — the phase of a class after a pass that is done

Passes are the only ones that write the status of a class.  Whatever others do to the class and to the storage
classes, and wherever calls fail, a pass that creates, puts right or takes away and then is done has seen the status
`Created` stored.  A pass that finds nothing to do writes no status: then the class has the phase only if an earlier
pass has written it.
-/

namespace LocalVolumes

open Cluster

/-- A status that passes write, or none yet. -/
def IsVerdict : Option ClassStatus → Prop
  | none => True
  | some st => st = .created ∨ ∃ reason, st = .failed reason

/-- The class of a name knows its name, and its status is one that passes write. -/
def Judged (n : String) (s : Cluster) : Prop :=
  ∀ c, s.localClasses.get? n = some c → Resource.key c = n ∧ IsVerdict c.status

/-- The class of a name, as long as it is stored, has a status. -/
def Shows (n : String) (st : Option ClassStatus) (s : Cluster) : Prop :=
  ∀ c, s.localClasses.get? n = some c → c.status = st

/-- What others may do while a pass over a name runs: anything but give the class another status, or another name. -/
def keepsStatus (n : String) : Rely where
  may s s' := ∀ c', s'.localClasses.get? n = some c' →
    ∃ c, s.localClasses.get? n = some c ∧ Resource.key c' = Resource.key c ∧ c'.status = c.status
  refl s := fun c h => ⟨c, h, rfl, rfl⟩
  trans h h' := by
    intro c'' hc''
    obtain ⟨c', hc', hk', hst'⟩ := h' c'' hc''
    obtain ⟨c, hc, hk, hst⟩ := h c' hc'
    exact ⟨c, hc, hk'.trans hk, hst'.trans hst⟩

variable {n : String} {s s' : Cluster} {st : Option ClassStatus}

theorem Judged.may (h : Judged n s) (hr : (keepsStatus n).may s s') : Judged n s' := by
  intro c' hc'
  obtain ⟨c, hc, hk, hst⟩ := hr c' hc'
  rw [hk, hst]
  exact h c hc

theorem Shows.may (h : Shows n st s) (hr : (keepsStatus n).may s s') : Shows n st s' := by
  intro c' hc'
  obtain ⟨c, hc, -, hst⟩ := hr c' hc'
  rw [hst, h c hc]

theorem keepsStatus_of_eq (h : s'.localClasses = s.localClasses) : (keepsStatus n).may s s' :=
  fun c' hc' => ⟨c', h ▸ hc', rfl, rfl⟩

/-! ### Steps -/

/-- A write of the status gives the class that status, or fails and leaves the class alone. -/
theorem Judged.replaceLocalClassStatus (h : Judged n s) {c : LocalClass} {r : Except Fault LocalClass}
    (hc : Resource.key c = n) (hst : IsVerdict c.status) (hs : s.Serves (.replaceLocalClassStatus c) r s') :
    Judged n s' ∧ ∀ c', r = .ok c' → Shows n c.status s' := by
  rcases hs.replaceLocalClassStatus with ⟨⟨e, rfl⟩, hrest⟩ | ⟨stored, hstored, -, rfl, rfl⟩
  · exact ⟨h.may (keepsStatus_of_eq hrest.localClasses), fun c' he => by simp at he⟩
  · rw [hc] at hstored ⊢
    refine ⟨fun a ha => ?_, fun _ _ a ha => ?_⟩
    · rw [get?_settled_self ha]
      exact ⟨(key_stamped ..).trans (h stored hstored).1, hst⟩
    · rw [get?_settled_self ha]
      rfl

/-- A write of all but the status leaves the status as it is. -/
theorem Judged.replaceLocalClass (h : Judged n s) (st : Option ClassStatus) {c : LocalClass}
    {r : Except Fault LocalClass} (hc : Resource.key c = n) (hs : s.Serves (.replaceLocalClass c) r s') :
    Judged n s' ∧ (Shows n st s → Shows n st s') ∧
      ∀ c', r = .ok c' → Resource.key c' = n ∧ (Shows n st s → c'.status = st) := by
  rcases hs.replaceLocalClass with ⟨⟨e, rfl⟩, hrest⟩ | ⟨stored, hstored, -, rfl, rfl⟩
  · have hr := keepsStatus_of_eq (n := n) hrest.localClasses
    exact ⟨h.may hr, fun hst => hst.may hr, fun c' he => by simp at he⟩
  · rw [hc] at hstored ⊢
    have hkey := (key_stamped (keepClassStatus stored c) s.nextVersion stored.metadata.deletionTimestamp).trans hc
    refine ⟨fun a ha => ?_, fun hst a ha => ?_, fun c' he => ?_⟩
    · rw [get?_settled_self ha]
      exact ⟨hkey, (h stored hstored).2⟩
    · rw [get?_settled_self ha]
      exact hst stored hstored
    · obtain rfl := Except.ok.inj he
      exact ⟨hkey, fun hst => hst stored hstored⟩

/-! ### Passes -/

/-- A routine among passes that follow each other: the status of the class stays one that passes write. -/
def Judges (n : String) {α : Type} (post : α → Cluster → Prop) (t : Routine α) (s : Cluster) : Prop :=
  t.Keeps (Judged n) (keepsStatus n) (fun _ _ _ => True) post s

/-- If the pass is done, the class shows the status of success. -/
def ShowsCreated (n : String) (r : Except Fault Outcome) (s : Cluster) : Prop :=
  r = .ok .done → Shows n (some .created) s

variable {α β : Type} {post : α → Cluster → Prop}

theorem Judges.done {a : α} (h : ∀ s', (keepsStatus n).may s s' → post a s') : Judges n post (.done a) s :=
  fun s' hr _ => h s' hr

theorem Judges.mono {post' : α → Cluster → Prop} {t : Routine α} (h : Judges n post t s)
    (hp : ∀ a s, post a s → post' a s) : Judges n post' t s :=
  Routine.Keeps.mono h (fun _ _ _ h => h) fun a s _ => hp a s

theorem Judges.bind {t : Routine β} {f : β → Routine α} {q : β → Cluster → Prop} (h : Judges n q t s)
    (hf : ∀ b s', q b s' → Judges n post (f b) s') : Judges n post (t.bind f) s :=
  Routine.Keeps.bind h fun b s₁ _ => hf b s₁

theorem Judges.call {c : Call} {f : c.Result → Routine α}
    (h : ∀ s₁ r s₂, (keepsStatus n).may s s₁ → Judged n s₁ → s₁.Serves c r s₂ →
      Judged n s₂ ∧ Judges n post (f r) s₂) : Judges n post ((Routine.call c).bind f) s :=
  Routine.Keeps.call fun s₁ r s₂ hr hj hs => ⟨(h s₁ r s₂ hr hj hs).1, trivial, (h s₁ r s₂ hr hj hs).2⟩

/-- A call that leaves the local classes alone, and what follows it. -/
theorem Judges.aside {c : Call} {f : c.Result → Routine α} (hc : ¬ c.WritesLocalClass) (hst : Shows n st s)
    (h : ∀ r s', Shows n st s' → Judges n post (f r) s') : Judges n post ((Routine.call c).bind f) s :=
  .call fun _ r s₂ hr hj hs =>
    have hr₂ := keepsStatus_of_eq (hs.frame.localClasses hc)
    ⟨hj.may hr₂, h r s₂ ((hst.may hr).may hr₂)⟩

theorem Judges.record {x : Sample} {f : Unit → Routine α} (h : Judges n post (f ()) s) :
    Judges n post ((Routine.record x).bind f) s :=
  Routine.Keeps.record (fun _ => trivial) h

namespace Pass

variable {c : LocalClass}

theorem judges_setStatus (hc : Resource.key c = n) (hst : Shows n c.status s) {status : ClassStatus}
    (hv : IsVerdict (some status)) :
    Judges n (fun r s => ∀ c', r = .ok c' → Shows n (some status) s) (setStatus c status) s := by
  unfold setStatus
  split
  · next h => exact .done fun s₁ hr _ _ => (h ▸ hst).may hr
  · rw [← Routine.bind_pure_right (Routine.call _)]
    refine .call fun s₁ r s₂ hr hj hs => ?_
    obtain ⟨hj₂, hok⟩ := hj.replaceLocalClassStatus (c := { c with status := some status }) hc hv hs
    exact ⟨hj₂, .done fun s₃ hr₃ c' he => (hok c' he).may hr₃⟩

theorem judges_abandon (hc : Resource.key c = n) (hst : Shows n c.status s) (e : Fault) :
    Judges n (ShowsCreated n) (abandon c e) s := by
  refine Judges.bind (q := fun _ _ => True) ?_ fun e s₁ _ => .done fun _ _ he => by simp at he
  refine (judges_setStatus hc hst (.inr ⟨_, rfl⟩)).bind fun r s₁ _ => ?_
  cases r <;> exact .done fun _ _ => trivial

theorem judges_succeed (hc : Resource.key c = n) (hst : Shows n c.status s) :
    Judges n (ShowsCreated n) (succeed c) s := by
  refine (judges_setStatus hc hst (.inl rfl)).bind fun r s₁ hmid => ?_
  cases r with
  | ok c' => exact .done fun s₂ hr _ => (hmid c' rfl).may hr
  | error e => exact .done fun _ _ he => by simp at he

theorem judges_createClass (hc : Resource.key c = n) (hst : Shows n c.status s) (name : String)
    (classes : List StorageClass) : Judges n (ShowsCreated n) (createClass name c classes) s := by
  refine .aside id hst fun r s₁ hst₁ => ?_
  cases r with
  | error e => exact judges_abandon hc hst₁ _
  | ok inventory =>
    dsimp only
    split
    · exact judges_abandon hc hst₁ _
    · split
      · exact .done fun _ _ he => by simp at he
      · refine .aside id hst₁ fun r s₂ hst₂ => ?_
        cases r with
        | ok _ => exact judges_succeed hc hst₂
        | error e =>
          dsimp only
          split
          · exact .done fun _ _ he => by simp at he
          · exact judges_abandon hc hst₂ e

theorem judges_create (hc : Resource.key c = n) (hst : Shows n c.status s) (classes : List StorageClass) :
    Judges n (ShowsCreated n) (create c classes) s := by
  cases hfin : c.hasFinalizer with
  | true =>
    rw [create_of_hasFinalizer hfin]
    exact judges_createClass hc hst _ _
  | false =>
    rw [create_of_not_hasFinalizer hfin rfl]
    refine .call fun s₁ r s₂ hr hj hs => ?_
    obtain ⟨hj₂, hst₂, hok⟩ := hj.replaceLocalClass c.status
      (c := { c with metadata := c.metadata.addFinalizer Marks.controllerFinalizer }) hc hs
    refine ⟨hj₂, ?_⟩
    cases r with
    | error e => exact .done fun _ _ he => by simp at he
    | ok stored =>
      obtain ⟨hkey, hstatus⟩ := hok stored rfl
      have hst₁ := hst.may hr
      exact judges_createClass hkey (hstatus hst₁ ▸ hst₂ hst₁) _ _

theorem judges_deleteClass (hst : Shows n st s) (current : StorageClass) :
    Judges n (fun _ => Shows n st) (deleteClass current) s := by
  have hdelete {s₁ : Cluster} (hst₁ : Shows n st s₁) :
      Judges n (fun _ => Shows n st) (Routine.call (.deleteStorageClass (current.metadata.name.getD ""))) s₁ := by
    rw [← Routine.bind_pure_right (Routine.call _)]
    exact .aside id hst₁ fun r s₂ hst₂ => .done fun s₃ hr => hst₂.may hr
  unfold deleteClass
  dsimp only
  split
  · exact .done fun s₁ hr => hst.may hr
  · split
    · refine .aside id hst fun r s₁ hst₁ => ?_
      cases r with
      | error e => exact .done fun s₂ hr => hst₁.may hr
      | ok sc => exact hdelete hst₁
    · exact hdelete hst

theorem judges_recreate (hst : Shows n st s) (current sc : StorageClass) :
    Judges n (fun _ => Shows n st) (recreate current sc) s := by
  refine (judges_deleteClass hst current).bind fun r s₁ hst₁ => ?_
  cases r with
  | error e => exact .done fun s₂ hr => hst₁.may hr
  | ok u =>
    refine .aside id hst₁ fun r s₂ hst₂ => ?_
    cases r <;> exact .done fun s₃ hr => hst₂.may hr

theorem judges_update (hc : Resource.key c = n) (hst : Shows n c.status s) (classes : List StorageClass) :
    Judges n (ShowsCreated n) (update c classes) s := by
  refine .aside id hst fun r s₁ hst₁ => ?_
  cases r with
  | error e => exact judges_abandon hc hst₁ _
  | ok inventory =>
    dsimp only
    split
    · exact judges_abandon hc hst₁ _
    · exact judges_succeed hc hst₁
    · next current sc _ =>
      refine (judges_recreate hst₁ current sc).bind fun r s₂ hst₂ => ?_
      cases r with
      | error e => exact judges_abandon hc hst₂ e
      | ok u => exact judges_succeed hc hst₂

/-- A class that is let go keeps its status until it is gone. -/
theorem judges_release (hc : Resource.key c = n) (hst : Shows n c.status s) :
    Judges n (fun _ _ => True) (release c) s := by
  unfold release LocalClass.removeFinalizer
  split
  · next released hrel =>
    obtain ⟨rfl, -⟩ := Prod.mk.injEq _ _ _ _ ▸ hrel
    refine .call fun s₁ r s₂ hr hj hs => ?_
    obtain ⟨hj₂, hst₂, -⟩ := hj.replaceLocalClass c.status
      (c := { c with metadata := c.metadata.removeFinalizers Marks.controllerFinalizers }) hc hs
    refine ⟨hj₂, ?_⟩
    cases r with
    | ok _ => exact .done fun _ _ => trivial
    | error e =>
      have habandon := judges_abandon (c := { c with
        metadata := c.metadata.removeFinalizers Marks.controllerFinalizers }) hc (hst₂ (hst.may hr))
        (.internal ("Unable to remove a finalizer, err: " ++ e.message))
      exact habandon.mono fun _ _ _ => trivial
  · exact .done fun _ _ => trivial

theorem judges_delete (hc : Resource.key c = n) (hst : Shows n c.status s) (classes : List StorageClass) :
    Judges n (fun _ _ => True) (delete c classes) s := by
  unfold delete
  split
  · exact judges_release hc hst
  · next current _ =>
    split
    · exact judges_release hc hst
    · refine (judges_deleteClass hst current).bind fun r s₁ hst₁ => ?_
      cases r with
      | ok u => exact judges_release hc hst₁
      | error e => exact (judges_abandon hc hst₁ _).mono fun _ _ _ => trivial

/-- What a class that is not being deleted shows when a pass is done: what it was, if there was nothing to do, else the
status of success. -/
def ShowsOutcome (n : String) (c : LocalClass) (classes : List StorageClass) (r : Except Fault Outcome)
    (s : Cluster) : Prop :=
  r = .ok .done → c.isBeingDeleted = false →
    (identifyFlow c classes = .ok .nothing → Shows n c.status s) ∧
      (identifyFlow c classes ≠ .ok .nothing → Shows n (some .created) s)

theorem ShowsCreated.outcome {classes : List StorageClass} {r : Except Fault Outcome} (h : ShowsCreated n r s)
    (hflow : identifyFlow c classes ≠ .ok .nothing) : ShowsOutcome n c classes r s :=
  fun hdone _ => ⟨fun he => absurd he hflow, fun _ => h hdone⟩

theorem judges_proceed (hc : Resource.key c = n) (hst : Shows n c.status s) (classes : List StorageClass) :
    Judges n (ShowsOutcome n c classes) (proceed c classes) s := by
  unfold proceed
  split
  · next hflow =>
    exact .record ((judges_abandon hc hst _).mono fun _ _ h => ShowsCreated.outcome h (by simp [hflow]))
  · next flow hflow =>
    refine Judges.bind (q := ShowsOutcome n c classes) ?_ fun r s₁ hmid => .record (.done fun s₂ hr hdone hlive =>
      ⟨fun he => ((hmid hdone hlive).1 he).may hr, fun he => ((hmid hdone hlive).2 he).may hr⟩)
    cases flow with
    | create =>
      exact (judges_create hc hst classes).mono fun _ _ h => ShowsCreated.outcome h (by simp [hflow])
    | update =>
      exact (judges_update hc hst classes).mono fun _ _ h => ShowsCreated.outcome h (by simp [hflow])
    | delete =>
      -- only a class that is being deleted is let go
      have hdeleted : c.isBeingDeleted = true := finds_of_identifyFlow hflow
      exact (judges_delete hc hst classes).mono fun _ _ _ _ hlive =>
        absurd (hlive.symm.trans hdeleted) Bool.false_ne_true
    | nothing => exact .done fun s₁ hr _ _ => ⟨fun _ => hst.may hr, fun he => absurd hflow he⟩

end Pass

variable {c : LocalClass}

theorem judges_reconcile (hc : Resource.key c = n) (hst : Shows n c.status s) :
    Judges n (fun _ _ => True) (reconcile c) s := by
  rw [Pass.reconcile_eq]
  refine .aside id hst fun r s₁ hst₁ => ?_
  cases r with
  | error e => exact .done fun _ _ => trivial
  | ok classes => exact (Pass.judges_proceed hc hst₁ classes).mono fun _ _ _ => trivial

theorem judges_reconcileNamed (interval : Nat) (n : String) (s : Cluster) :
    Judges n (fun _ _ => True) (reconcileNamed interval n) s := by
  refine .call fun s₁ r s₂ hr hj hs => ?_
  rcases hs.getLocalClass with ⟨⟨e, rfl⟩, hrest⟩ | ⟨rfl, rfl⟩
  · exact ⟨hj.may (keepsStatus_of_eq hrest.localClasses), .done fun _ _ => trivial⟩
  · refine ⟨hj, ?_⟩
    split
    · next he => simp at he
    · exact .done fun _ _ => trivial
    · next c hc =>
      simp only [Except.ok.injEq] at hc
      have hst : Shows n c.status s₂ := fun c' hc' => by rw [Option.some.inj (hc.symm.trans hc')]
      refine (judges_reconcile (hj c hc).1 hst).bind fun r s₃ _ => ?_
      split <;> exact .done fun _ _ => trivial

/-! ### Passes that follow each other -/

/-- Passes over one name, of which one follows the other, and others that leave the status alone. -/
theorem fits_passes (interval : Nat) (n : String) :
    World.Fits (keepsStatus n).may (fun _ : Unit => reconcileNamed interval n) (Judged n)
      (fun _ => keepsStatus n) (fun _ _ _ _ => True) (fun _ _ _ => True) where
  disturbed h hr := ⟨h.may hr, fun _ => hr⟩
  moved hne _ _ _ := absurd (Subsingleton.elim _ _) hne
  started _ s _ := judges_reconcileNamed interval n s

/-- A pass that is done has listed the storage classes at some time. -/
theorem Pass.exists_listed {R : Rely} {w : Cluster} (h : (reconcile c).Progress R s (.done (.ok .done)) w) :
    ∃ s₁, R.may s s₁ ∧ (Pass.proceed c s₁.storageClasses.values).Progress R s₁ (.done (.ok .done)) w := by
  rcases h.cases_ask with ⟨he, -⟩ | ⟨s₁, r, s₂, hr, hs, hp⟩
  · simp at he
  · rcases Cluster.Serves.listStorageClasses hs with ⟨⟨e, rfl⟩, -⟩ | ⟨rfl, rfl⟩
    · have hdone := Routine.Progress.eq_done hp
      simp at hdone
    · exact ⟨s₂, hr, hp⟩

/-- **The phase after a pass that is done.**  A class without a status is stored; passes over it start, go on, fail
and are given up, one after the other, while others do anything but write its status.  Then a pass over the class as it
is stored, not being deleted, is done.  The class has the phase `Created`, but for one case: the pass had nothing to do,
and no pass before it has written a status. -/
theorem phase_eq_created_iff {interval : Nat} {s s' : Cluster} {n : String} {c₀ c : LocalClass} (hs : s.Arises)
    (hc₀ : s.localClasses.get? n = some c₀) (hst₀ : c₀.status = none) {w : World Unit (Except Fault Requeue)}
    (hw : Relation.ReflTransGen (World.Step (keepsStatus n).may fun _ => reconcileNamed interval n)
      (World.idle s) w)
    (hc : w.cluster.localClasses.get? n = some c) (hlive : c.isBeingDeleted = false)
    (hrun : (reconcile c).Progress (keepsStatus n) w.cluster (.done (.ok .done)) s') :
    ∃ s₁, (keepsStatus n).may w.cluster s₁ ∧
      (Pass.proceed c s₁.storageClasses.values).Progress (keepsStatus n) s₁ (.done (.ok .done)) s' ∧
      ∀ c', s'.localClasses.get? n = some c' →
        (c'.phase = some .created ↔
          ¬ (c.status = none ∧ identifyFlow c s₁.storageClasses.values = .ok .nothing)) := by
  have hstart : Judged n s := fun a ha => by
    obtain rfl := Option.some.inj (hc₀.symm.trans ha)
    exact ⟨hs.tidy.localClasses n _ ha, hst₀ ▸ trivial⟩
  have hjudged := ((World.Sound.idle hstart).reaches (fits_passes interval n) hw).holds
  obtain ⟨hkey, hverdict⟩ := hjudged c hc
  obtain ⟨s₁, hr, hp⟩ := Pass.exists_listed hrun
  have hst : Shows n c.status w.cluster := fun a ha => by rw [Option.some.inj (hc.symm.trans ha)]
  have hkeeps := Pass.judges_proceed hkey (hst.may hr) s₁.storageClasses.values
  obtain ⟨hj', hend⟩ := Routine.Keeps.progress hkeeps (hjudged.may hr) (fun _ _ h hr => h.may hr) hp
  obtain ⟨hnothing, helse⟩ := hend s' ((keepsStatus n).refl s') hj' rfl hlive
  refine ⟨s₁, hr, hp, fun c' hc' => ?_⟩
  by_cases hflow : identifyFlow c s₁.storageClasses.values = .ok .nothing
  · have hc'st := hnothing hflow c' hc'
    obtain ⟨-, current, -, -, -, bindings, -, -, hfail⟩ := finds_of_identifyFlow hflow
    -- a failure is never left alone, so the status is that of success or none
    rcases hcst : c.status with _ | st
    · simp [LocalClass.phase, hc'st, hcst, hflow]
    · rw [hcst] at hverdict
      rcases hverdict with rfl | ⟨reason, rfl⟩
      · simp [LocalClass.phase, hc'st, hcst, ClassStatus.created]
      · simp [LocalClass.isFailed, LocalClass.phase, hcst, ClassStatus.failed] at hfail
  · have hc'st := helse hflow c' hc'
    simp [LocalClass.phase, hc'st, hflow, ClassStatus.created]

namespace Sample

/-- The cluster, with a failure planned for the next write of the status. -/
def hinderedCluster : Cluster :=
  cluster.intervene (.planFailure (.replaceLocalClassStatus "local") (.internal "unreachable"))

/-- A pass whose write of the status fails. -/
@[irreducible] def hinderedPass : Except Fault Requeue × Simulation :=
  Simulation.run .ofRoutine [] (reconcileNamed 10000 "local") { cluster := hinderedCluster } 0

/-- The class after that pass. -/
def neglectedClass : LocalClass := (hinderedPass.2.cluster.localClasses.get? "local").getD localClass

/-- The pass after it. -/
@[irreducible] def nextPass : Except Fault Outcome × Simulation :=
  Simulation.run .ofRoutine [] (reconcile neglectedClass) hinderedPass.2 0

end Sample

/-- The first pass over a class creates its storage class, and the class has the phase. -/
theorem phase_eq_created_iff_first_pass :
    ∃ s₁ c', (Pass.proceed Sample.storedClass s₁.storageClasses.values).Progress (keepsStatus "local") s₁
        (.done (.ok .done)) Sample.firstPass.2.cluster ∧
      Sample.firstPass.2.cluster.localClasses.get? "local" = some c' ∧ c'.phase = some .created ∧
      ¬ (Sample.storedClass.status = none ∧
        identifyFlow Sample.storedClass s₁.storageClasses.values = .ok .nothing) := by
  have hrun := Simulation.progress_run (keepsStatus "local") .ofRoutine (reconcile Sample.storedClass)
    { cluster := Sample.cluster } 0
  have e : Sample.firstPass = Simulation.run .ofRoutine [] (reconcile Sample.storedClass)
      { cluster := Sample.cluster } 0 := by
    rw [Sample.firstPass]
    rfl
  have hdone : Sample.firstPass.1 = .ok .done := Except.eq_ok_of_toOption (by decide +kernel)
  rw [← e, hdone] at hrun
  have hstored : Sample.cluster.localClasses.get? "local" = some Sample.storedClass := by decide +kernel
  have hnone : Relation.ReflTransGen (World.Step (keepsStatus "local").may fun _ : Unit => reconcileNamed 10000 "local")
      (World.idle Sample.cluster) (World.idle Sample.cluster) := .refl
  have hlive : Sample.storedClass.isBeingDeleted = false := by decide +kernel
  obtain ⟨s₁, -, hp, hphase⟩ := phase_eq_created_iff Sample.arises_cluster hstored (by decide +kernel) hnone hstored
    hlive hrun
  have hcreated : (Sample.firstPass.2.cluster.localClasses.get? "local").bind (·.phase) = some .created := by
    decide +kernel
  obtain ⟨c', hc', hc'p⟩ := Option.bind_eq_some_iff.1 hcreated
  exact ⟨s₁, c', hp, hc', hc'p, (hphase c' hc').1 hc'p⟩

/-- A pass creates the storage class and cannot write the status; the next one is done, and the class has no phase. -/
theorem done_without_phase :
    Sample.cluster.localClasses.get? "local" = some Sample.storedClass ∧ Sample.storedClass.status = none ∧
    Sample.cluster.storageClasses.get? "local" = none ∧
    ∃ (w : World Unit (Except Fault Requeue)) (c : LocalClass) (s' : Cluster),
      Relation.ReflTransGen (World.Step (keepsStatus "local").may fun _ => reconcileNamed 10000 "local")
        (World.idle Sample.cluster) w ∧
      w.cluster.localClasses.get? "local" = some c ∧ c.isBeingDeleted = false ∧
      (reconcile c).Progress (keepsStatus "local") w.cluster (.done (.ok .done)) s' ∧
      ∃ c', s'.localClasses.get? "local" = some c' ∧ c'.phase = none := by
  have hallows : Allows (keepsStatus "local").may [] := fun _ _ h => by simp at h
  have hw := World.reaches_start_run (fun _ : Unit => reconcileNamed 10000 "local")
    (w := World.idle Sample.hinderedCluster) (i := ()) hallows .ofRoutine
    { cluster := Sample.hinderedCluster } 0 rfl rfl
  have e₁ : Sample.hinderedPass = Simulation.run .ofRoutine [] (reconcileNamed 10000 "local")
      { cluster := Sample.hinderedCluster } 0 := by rw [Sample.hinderedPass]
  rw [← e₁] at hw
  have hrun := Simulation.progress_run (keepsStatus "local") .ofRoutine (reconcile Sample.neglectedClass)
    Sample.hinderedPass.2 0
  have e₂ : Sample.nextPass = Simulation.run .ofRoutine [] (reconcile Sample.neglectedClass)
      Sample.hinderedPass.2 0 := by rw [Sample.nextPass]
  have hdone : Sample.nextPass.1 = .ok .done := Except.eq_ok_of_toOption (by decide +kernel)
  rw [← e₂, hdone] at hrun
  have hlook : (Sample.nextPass.2.cluster.localClasses.get? "local").map (·.phase) = some none := by
    decide +kernel
  obtain ⟨c', hc', hc'p⟩ := Option.map_eq_some_iff.1 hlook
  refine ⟨by decide +kernel, by decide +kernel, by decide +kernel, _, Sample.neglectedClass,
    Sample.nextPass.2.cluster, .head (.disturb ?_) hw, ?_, ?_, hrun, c', hc', hc'p⟩
  · exact keepsStatus_of_eq rfl
  · decide +kernel
  · decide +kernel

end LocalVolumes
