import LocalVolumes.Proofs.Acceptance
import LocalVolumes.Proofs.Completion
import LocalVolumes.Proofs.Deletion

/-!
# LocalVolumes.Proofs.Retry — a deletion that has failed is finished by the next one

A request to delete a volume reads it, takes the finalizer of the provisioner from it, and asks for its deletion.  A
failure may leave the volume at any point of this: untouched, without the finalizer, marked, or gone.  What it leaves is
always something from which another request comes to the end, since neither the finalizers of others nor anything else
about the volume has changed.
-/

namespace LocalVolumes

open Cluster Provisioning
open Routine (noMatter)

variable {n : String} {s s₀ s' t : Cluster} {v w : LogicalVolume}

/-! ### What a deletion leaves alone -/

theorem Metadata.removeFinalizers_removeFinalizers (m : Metadata) (fs : List String) :
    (m.removeFinalizers fs).removeFinalizers fs = m.removeFinalizers fs := by
  simp [removeFinalizers, Function.comp_def]

namespace LogicalVolume

/-- The finalizers that others than the provisioner have put on a volume. -/
def foreignFinalizers (v : LogicalVolume) : List String :=
  v.metadata.finalizerList.filter (· ∉ [Marks.provisionerFinalizer])

/-- A volume but for the finalizer of the provisioner, its version and the time of its deletion. -/
def core (v : LogicalVolume) : LogicalVolume :=
  { v with metadata :=
    { v.metadata.removeFinalizers [Marks.provisionerFinalizer] with resourceVersion := none, deletionTimestamp := none } }

@[simp] theorem core_stamped (v : LogicalVolume) (version : String) (deleted : Option Timestamp) :
    (stamped v version deleted).core = v.core := rfl

@[simp] theorem core_removeFinalizer (v : LogicalVolume) : v.removeFinalizer.1.core = v.core := by
  simp only [core, removeFinalizer, Metadata.removeFinalizers_removeFinalizers]

theorem finalizerList_removeFinalizer (v : LogicalVolume) :
    v.removeFinalizer.1.metadata.finalizerList = v.foreignFinalizers := Metadata.finalizerList_removeFinalizers_eq _ _

theorem foreignFinalizers_of_core (h : w.core = v.core) : w.foreignFinalizers = v.foreignFinalizers := by
  have hcore (v : LogicalVolume) : v.foreignFinalizers = v.core.metadata.finalizerList :=
    (finalizerList_removeFinalizer v).symm
  rw [hcore, hcore, h]

theorem spec_of_core (h : w.core = v.core) : w.spec = v.spec := (congrArg spec h : w.core.spec = v.core.spec)

theorem status_of_core (h : w.core = v.core) : w.status = v.status :=
  (congrArg status h : w.core.status = v.core.status)

theorem foreignFinalizers_of_finalizerList (h : v.metadata.finalizerList = []) : v.foreignFinalizers = [] := by
  rw [foreignFinalizers, h, List.filter_nil]

end LogicalVolume

/-- What an unfinished deletion may have made of what is stored under a name. -/
inductive Remains : Option LogicalVolume → Option LogicalVolume → Prop
  | absent : Remains none none
  | stored {v w : LogicalVolume} : w.core = v.core → Remains (some v) (some w)
  | gone {v : LogicalVolume} : v.foreignFinalizers = [] → Remains (some v) none

/-- What a finished deletion has made of what was stored under a name: it is gone, or it is being deleted, with the
finalizers of others only, which are kept in order. -/
inductive Disposed : Option LogicalVolume → Option LogicalVolume → Prop
  | absent : Disposed none none
  | gone {v : LogicalVolume} : v.foreignFinalizers = [] → Disposed (some v) none
  | held {v w : LogicalVolume} : v.foreignFinalizers ≠ [] → w.metadata.isBeingDeleted = true →
      w.metadata.finalizerList = v.foreignFinalizers → w.spec = v.spec → w.status = v.status →
      Disposed (some v) (some w)

section Remains

variable {a b c : Option LogicalVolume}

theorem Remains.refl (a : Option LogicalVolume) : Remains a a := by
  cases a with
  | none => exact .absent
  | some v => exact .stored rfl

theorem Remains.trans (h : Remains a b) (h' : Remains b c) : Remains a c := by
  cases h with
  | absent => exact h'
  | gone hv =>
    cases h' with
    | absent => exact .gone hv
  | stored hcore =>
    cases h' with
    | stored hcore' => exact .stored (hcore'.trans hcore)
    | gone hw => exact .gone (LogicalVolume.foreignFinalizers_of_core hcore ▸ hw)

/-- What remains of a volume that only others hold any more. -/
theorem Remains.disposed (h : Remains a b) (hheld : ∀ v, a = some v → HeldBy v.foreignFinalizers b) : Disposed a b := by
  cases h with
  | absent => exact .absent
  | gone hv => exact .gone hv
  | @stored v w hcore =>
    rcases hheld v rfl with ⟨-, hnone⟩ | ⟨hne, w', hw', hdel, hlist⟩
    · simp at hnone
    · obtain rfl := Option.some.inj hw'
      exact .held hne hdel hlist (LogicalVolume.spec_of_core hcore) (LogicalVolume.status_of_core hcore)

/-- A deletion that is finished after another one was broken off disposes of what was there before both. -/
theorem Disposed.after (h : Disposed b c) (hr : Remains a b) : Disposed a c := by
  cases hr with
  | absent => exact h
  | gone hv =>
    cases h with
    | absent => exact .gone hv
  | stored hcore =>
    have hforeign := LogicalVolume.foreignFinalizers_of_core hcore
    cases h with
    | gone hw => exact .gone (hforeign ▸ hw)
    | held hne hdel hlist hspec hstatus =>
      exact .held (hforeign ▸ hne) hdel (hlist.trans hforeign) (hspec.trans (LogicalVolume.spec_of_core hcore))
        (hstatus.trans (LogicalVolume.status_of_core hcore))

end Remains

/-! ### What each call of a deletion does -/

/-- A deletion is under way: no other object is touched, and the volume remains. -/
structure Releasing (n : String) (s₀ s : Cluster) : Prop where
  still : s.convergence = none
  keyed : Keyed s.volumes
  confined : Confined (· = n) (fun _ => False) s₀ s
  remains : Remains (s₀.volumes.get? n) (s.volumes.get? n)

theorem Releasing.refl (hs : s.convergence = none) (hk : Keyed s.volumes) : Releasing n s s :=
  ⟨hs, hk, .refl _ _ s, .refl _⟩

theorem Releasing.rests (h : Releasing n s₀ s) (hr : s.Rests s') : Releasing n s₀ s' := by
  obtain ⟨version, fs, -, rfl⟩ := hr
  exact ⟨h.still, h.keyed, h.confined.trans ⟨rfl, rfl, rfl, fun _ _ => rfl, fun _ _ _ => rfl⟩, h.remains⟩

/-- A replacement that asks for the size that is stored keeps the status. -/
theorem keepVolumeStatus_of_size {request : LogicalVolume} (hv : s.volumes.get? (Resource.key request) = some v)
    (hsize : request.spec.size = v.spec.size) (hstatus : request.status = v.status) :
    keepVolumeStatus (isResized s.volumes request) v request = request := by
  have hsame : isResized s.volumes request = false := by simp [isResized, hv, hsize]
  rw [hsame, keepVolumeStatus, ← hstatus]
  simp

section Calls

variable (h : Releasing n s₀ s)

include h

/-- The volume without the finalizer of the provisioner takes its place. -/
theorem Releasing.replaceVolume (hv : s.volumes.get? n = some v) {r : Except Fault LogicalVolume}
    (hs : s.Serves (.replaceVolume v.removeFinalizer.1) r s') : Releasing n s₀ s' := by
  have hkey : Resource.key v.removeFinalizer.1 = n := h.keyed n v hv
  rcases hs.replaceVolume_isResized with hf | ⟨stored, ps, hstored, -, -, rfl⟩
  · exact h.rests hf.2
  · obtain rfl : stored = v := Option.some.inj (hstored.symm.trans (hkey.symm ▸ hv))
    rw [keepVolumeStatus_of_size hstored rfl rfl, hkey]
    let kept : LogicalVolume :=
      stamped stored.removeFinalizer.1 s.nextVersion stored.metadata.deletionTimestamp
    have hremains : Remains (some stored) ((settled s.volumes n kept).get? n) := by
      rcases get?_settled_cases s.volumes n kept with hsome | ⟨-, hbare, hnone⟩
      · rw [hsome]
        exact .stored (LogicalVolume.core_removeFinalizer stored)
      · rw [hnone]
        exact .gone ((LogicalVolume.finalizerList_removeFinalizer stored).symm.trans hbare)
    exact {
      still := h.still
      keyed := h.keyed.settled ((key_stamped ..).trans hkey)
      confined := h.confined.trans (.of_volumes rfl rfl rfl fun k hk => get?_settled_ne _ hk)
      remains := h.remains.trans (hv ▸ hremains) }

/-- The volume is marked, or it is gone. -/
theorem Releasing.deleteVolume {r : Except Fault Unit} (hs : s.Serves (.deleteVolume n) r s') :
    Releasing n s₀ s' := by
  rcases hs.deleteVolume with hf | ⟨-, rfl⟩
  · exact h.rests hf.2
  · have hremains : Remains (s.volumes.get? n) ((markDeleted s.volumes n s.nextVersion s.now).get? n) := by
      cases hv : s.volumes.get? n with
      | none =>
        rw [get?_markDeleted_eq_none (by simp [hv])]
        exact .absent
      | some v =>
        by_cases hbare : v.metadata.finalizerList = []
        · have hnone : (markDeleted s.volumes n s.nextVersion s.now).get? n = none := by
            refine get?_markDeleted_eq_none fun w hw => ?_
            rwa [← Option.some.inj (hv.symm.trans hw)]
          rw [hnone]
          exact .gone (LogicalVolume.foreignFinalizers_of_finalizerList hbare)
        · rw [get?_markDeleted_of_finalizer hv hbare]
          split
          · exact .refl _
          · exact .stored rfl
    exact {
      still := h.still
      keyed := h.keyed.markDeleted n s.nextVersion s.now
      confined := h.confined.trans (.of_volumes rfl rfl rfl fun k hk => get?_markDeleted_ne hk)
      remains := h.remains.trans hremains }

end Calls

/-! ### The first request -/

/-- The deletion of a volume, whatever comes of it, and whatever point it gets to. -/
abbrev KeepsReleasing (n : String) (s₀ : Cluster) {α : Type} (work : Routine α) (s : Cluster) : Prop :=
  work.Keeps (Releasing n s₀) undisturbed (fun _ _ _ => True) noMatter s

theorem keepsReleasing_done {α : Type} (a : α) : KeepsReleasing n s₀ (.done a) s := .done fun _ _ _ => trivial

theorem keepsReleasing_call {α : Type} {c : Call} {f : c.Result → Routine α}
    (h : ∀ r s', Releasing n s₀ s → s.Serves c r s' → Releasing n s₀ s' ∧ KeepsReleasing n s₀ (f r) s') :
    KeepsReleasing n s₀ ((Routine.call c).bind f) s := by
  refine .call ?_
  rintro s₁ r s₂ rfl hi hs
  obtain ⟨hi₂, hf⟩ := h r s₂ hi hs
  exact ⟨hi₂, trivial, hf⟩

theorem keepsReleasing_deleteVolume : KeepsReleasing n s₀ (Routine.call (.deleteVolume n)) s := by
  rw [← Routine.bind_pure_right (Routine.call _)]
  exact keepsReleasing_call fun r s' h hs => ⟨h.deleteVolume hs, keepsReleasing_done r⟩

theorem keepsReleasing_releaseFound (hv : s.volumes.get? n = some v) : KeepsReleasing n s₀ (releaseFound n v) s := by
  unfold releaseFound
  split
  · next stripped hstripped =>
    obtain rfl := congrArg Prod.fst hstripped
    refine keepsReleasing_call fun r s' h hs => ⟨h.replaceVolume hv hs, ?_⟩
    cases r with
    | error e =>
      dsimp only
      split <;> exact keepsReleasing_done _
    | ok _ => exact keepsReleasing_deleteVolume
  · exact keepsReleasing_deleteVolume

theorem keepsReleasing_release : KeepsReleasing n s₀ (release n) s := by
  rw [release_eq]
  refine keepsReleasing_call fun r s' h hs => ?_
  rcases hs.getVolume_of_still h.still with ⟨⟨e, rfl⟩, hrests⟩ | ⟨rfl, rfl⟩
  · exact ⟨h.rests hrests, keepsReleasing_done _⟩
  · refine ⟨h, ?_⟩
    cases hv : s'.volumes.get? n with
    | none => exact keepsReleasing_done _
    | some v => exact keepsReleasing_releaseFound hv

theorem keepsReleasing_deletion (hn : n ≠ "") : KeepsReleasing n s₀ (deleteVolume n) s := by
  unfold deleteVolume
  rw [if_neg hn, measured_eq]
  refine .now (fun _ => trivial) fun start => .bind keepsReleasing_release fun r s' _ _ => ?_
  exact .now (fun _ => trivial) fun finish => .record (fun _ => trivial) (keepsReleasing_done r)

/-- **A deletion of which any calls fail, and which may be broken off, touches nothing but the volume**, and of that
everything remains that is not its own. -/
theorem releasing_of_progress {u : Routine (Except Fault Unit)} (hn : n ≠ "") (hs : s.convergence = none)
    (hk : Keyed s.volumes) (h : (deleteVolume n).Progress undisturbed s u t) : Releasing n s t :=
  (Routine.Keeps.progress (keepsReleasing_deletion hn) (.refl hs hk) (fun _ _ hi ht => ht ▸ hi) h).1

/-! ### The second request -/

/-- A volume that was found is held by others only, if no call fails. -/
theorem heldBy_releaseFound (hf : s.failures = []) (hv : s.volumes.get? n = some v) (hk : Resource.key v = n) :
    (releaseFound n v).Alone (fun r t => r = .ok () ∧ HeldBy v.foreignFinalizers (t.volumes.get? n)) s := by
  have hdelete {s : Cluster} (hf : s.failures = []) (hreleased : Released v.foreignFinalizers (s.volumes.get? n)) :
      (Routine.call (.deleteVolume n)).Alone
        (fun r t => r = .ok () ∧ HeldBy v.foreignFinalizers (t.volumes.get? n)) s := by
    rw [← Routine.bind_pure_right (Routine.call _)]
    exact .call_bind (answer_deleteVolume hf n) ⟨rfl, hreleased.markDeleted s.nextVersion s.now⟩
  unfold releaseFound
  split
  · next stripped hstripped =>
    obtain rfl := congrArg Prod.fst hstripped
    have hk' : Resource.key v.removeFinalizer.1 = n := hk
    obtain ⟨resized, ps, ha⟩ := answer_replaceVolume (v := v.removeFinalizer.1) hf (hk'.symm ▸ hv) (isCurrent_self v)
    rw [hk'] at ha
    exact .call_bind ha (hdelete hf (.settled (LogicalVolume.finalizerList_removeFinalizer v)))
  · next stripped hstripped =>
    have hforeign : v.foreignFinalizers = v.metadata.finalizerList :=
      Metadata.filter_of_hasAnyFinalizer (congrArg Prod.snd hstripped)
    refine hdelete hf ⟨fun w hw => ?_, fun hnone => ?_⟩
    · rw [hforeign, Option.some.inj (hv.symm.trans hw)]
      rfl
    · exact absurd (hnone.symm.trans hv) (by simp)

theorem heldBy_release (hf : s.failures = []) (hs : s.convergence = none) (hk : Keyed s.volumes) :
    (release n).Alone
      (fun r t => r = .ok () ∧ ∀ v, s.volumes.get? n = some v → HeldBy v.foreignFinalizers (t.volumes.get? n)) s := by
  rw [release_eq]
  refine .call_bind (answer_getVolume_of_still hs (unplanned_of_isEmpty (List.isEmpty_iff.2 hf))) ?_
  cases hv : s.volumes.get? n with
  | none => exact ⟨rfl, by simp⟩
  | some v =>
    refine (heldBy_releaseFound hf hv (hk n v hv)).mono fun r t ⟨hr, ht⟩ => ⟨hr, fun w hw => ?_⟩
    rwa [← Option.some.inj hw]

theorem run_deleteVolume (signal : StopSignal) (events : List (Nat × Happening)) (sim : Simulation) (k : Nat)
    (hn : n ≠ "") :
    let run := Simulation.run signal events (deleteVolume n) sim k
    let work := Simulation.run signal [] (release n) sim k
    run.1 = work.1 ∧ run.2.cluster = work.2.cluster := by
  have h := run_measured signal events sim k "delete_volume" (release n)
  rw [Simulation.run_of_prompt (prompt_release n)] at h
  unfold deleteVolume
  rwa [if_neg hn]

/-- A deletion that nobody disturbs and of which no call fails is finished. -/
theorem disposed_run (signal : StopSignal) (events : List (Nat × Happening)) (sim : Simulation) (k : Nat) (hn : n ≠ "")
    (hf : sim.cluster.failures = []) (hs : sim.cluster.convergence = none) (hk : Keyed sim.cluster.volumes) :
    let run := Simulation.run signal events (deleteVolume n) sim k
    run.1 = .ok () ∧ Disposed (sim.cluster.volumes.get? n) (run.2.cluster.volumes.get? n) ∧
      Confined (· = n) (fun _ => False) sim.cluster run.2.cluster := by
  intro run
  obtain ⟨hresult, hcluster⟩ := run_deleteVolume signal events sim k hn
  obtain ⟨hok, hheld⟩ : (Simulation.run signal [] (release n) sim k).1 = .ok () ∧ _ := (heldBy_release hf hs hk).run
  have hreleasing := (keepsReleasing_release.progress (.refl hs hk) (fun _ _ hi ht => ht ▸ hi)
    (Simulation.progress_run undisturbed signal (release n) sim k)).1
  refine ⟨hresult.trans hok, ?_, hcluster ▸ hreleasing.confined⟩
  rw [hcluster]
  exact hreleasing.remains.disposed hheld

/-! ### Both -/

/-- **A deletion can be asked for again.**  Volumes do not converge by themselves.  However far a request to delete a
volume got, and whichever of its calls have failed, another request of which no call fails succeeds: the volume is gone,
or it is being deleted and has the finalizers of others only, in order, and is otherwise as it was before the first
request.  Neither request touches another object.  And a request to delete what is not there succeeds and writes
nothing. -/
theorem deletion_can_be_asked_for_again (hs : s.Arises) (hc : s.convergence = none) (hn : n ≠ "")
    (signal : StopSignal) (events : List (Nat × Happening)) (sim : Simulation) (k : Nat) :
    let run := Simulation.run signal events (deleteVolume n) sim k
    (∀ u t, (deleteVolume n).Progress undisturbed s u t → sim.cluster = { t with failures := [] } →
      run.1 = .ok () ∧ Disposed (s.volumes.get? n) (run.2.cluster.volumes.get? n) ∧
        Confined (· = n) (fun _ => False) s t ∧ Confined (· = n) (fun _ => False) t run.2.cluster) ∧
    (s.volumes.get? n = none → s.Unplanned (.getVolume n) → sim.cluster = s →
      run.1 = .ok () ∧ run.2.cluster = s) := by
  intro run
  constructor
  · intro u t hfirst hsim
    have hbroken := releasing_of_progress hn hc hs.tidy.volumes hfirst
    obtain ⟨hok, hdisposed, hconfined⟩ :=
      disposed_run signal events sim k hn (by rw [hsim])
        (by rw [hsim]; exact hbroken.still) (by rw [hsim]; exact hbroken.keyed)
    rw [hsim] at hdisposed hconfined
    exact ⟨hok, hdisposed.after hbroken.remains, hbroken.confined, { hconfined with }⟩
  · intro hnone hunplanned hsim
    obtain ⟨hresult, hcluster⟩ := run_deleteVolume signal events sim k hn
    have hwork : Simulation.run signal [] (release n) sim k = (.ok (), { sim with cluster := s }) := by
      rw [release_eq, Simulation.run_call_bind, hsim, answer_getVolume_of_still hc hunplanned, hnone]
      rfl
    rw [hwork] at hresult hcluster
    exact ⟨hresult, hcluster⟩

namespace Sample

/-- A volume that someone else holds as well. -/
def sharedVolume : LogicalVolume :=
  { metadata := { name := some "pvc-1", finalizers := some [Marks.provisionerFinalizer, "example/backup"] }
    spec := ⟨"pvc-1", .thick, ⟨"1Gi"⟩, "vg-1", none, some ⟨false⟩⟩
    status := some ⟨some .created, none, some ⟨"1Gi"⟩⟩ }

/-- A cluster with it, in which a deletion is going to fail. -/
def unreadyCluster : Cluster :=
  (({} : Cluster).intervene (.putVolume sharedVolume)).intervene
    (.planFailure (.deleteVolume "pvc-1") (.internal "unreachable"))

/-- The first request to delete it. -/
@[irreducible] def firstDeletion : Except Fault Unit × Simulation :=
  Simulation.run .ofRoutine [] (deleteVolume "pvc-1") { cluster := unreadyCluster } 0

/-- What the first request leaves. -/
def halfDeleted : Simulation := { cluster := { firstDeletion.2.cluster with failures := [] } }

end Sample

/-- The first request takes the finalizer and fails; the second leaves the volume to the one who holds it. -/
theorem deletion_can_be_asked_for_again_shared :
    Sample.firstDeletion.1 = .error (.internal "unreachable") ∧
      let run := Simulation.run .ofRoutine [] (deleteVolume "pvc-1") Sample.halfDeleted 0
      run.1 = .ok () ∧ ∃ w, run.2.cluster.volumes.get? "pvc-1" = some w ∧ w.metadata.isBeingDeleted = true ∧
        w.metadata.finalizerList = ["example/backup"] ∧ w.status = Sample.sharedVolume.status := by
  have hs : Sample.unreadyCluster.Arises := .intervene _ (.intervene _ .empty)
  have hfirst : (deleteVolume "pvc-1").Progress undisturbed Sample.unreadyCluster (.done Sample.firstDeletion.1)
      Sample.firstDeletion.2.cluster := by
    rw [Sample.firstDeletion]
    exact Simulation.progress_run undisturbed .ofRoutine _ { cluster := Sample.unreadyCluster } 0
  obtain ⟨hagain, -⟩ :=
    deletion_can_be_asked_for_again (n := "pvc-1") hs rfl (by decide) .ofRoutine [] Sample.halfDeleted 0
  obtain ⟨hok, hdisposed, -⟩ := hagain _ _ hfirst rfl
  have hstored : Sample.unreadyCluster.volumes.get? "pvc-1" =
      some { Sample.sharedVolume with metadata :=
        { Sample.sharedVolume.metadata with resourceVersion := some "1" } } := by decide +kernel
  rw [hstored] at hdisposed
  refine ⟨by decide +kernel, hok, ?_⟩
  generalize (Simulation.run .ofRoutine [] (deleteVolume "pvc-1") Sample.halfDeleted 0).2.cluster.volumes.get? "pvc-1" =
    found at hdisposed ⊢
  cases hdisposed with
  | gone hnone => exact absurd hnone (by decide)
  | @held _ w _ hdel hlist _ hstatus => exact ⟨w, rfl, hdel, hlist, hstatus⟩

end LocalVolumes
