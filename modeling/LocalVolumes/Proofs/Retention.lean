import LocalVolumes.Proofs.Materialization
import LocalVolumes.Proofs.Release

/-!
# LocalVolumes.Proofs.Retention — how long a created volume stays

Requests to create, grow and delete volumes run side by side while the nodes report on the volumes.  A volume is
taken away by two kinds of routine only: a request to delete it, and a request to create it whose wait has failed.
As long as neither is at work a volume that a request has created stays.  The second kind makes no difference between
a volume that it has created and one that was there before it.
-/

namespace LocalVolumes

open Cluster
open Routine (noMatter)

variable {n : String}

/-! ### Requests side by side -/

section Worlds

variable {ι : Type} [DecidableEq ι] (cfg : ProvisionerConfig) (jobs : ι → Job)

omit [DecidableEq ι] in
/-- Any requests fit together. -/
theorem fits_work : World.Fits Reports (fun i => (jobs i).work cfg) Anchored (fun _ => advancing)
    (fun i => (jobs i).Blameless) (fun _ => noMatter) where
  disturbed h hs := ⟨(h.reports hs).1, fun _ => (h.reports hs).2.1⟩
  moved _ _ _ hg := hg.1
  started i s _ := (jobs i).keeps_work cfg s

variable {cfg jobs} {w w' : World ι Job.Answer}

/-- Requests that are under way, each keeping to its part. -/
abbrev Busy (jobs : ι → Job) : World ι Job.Answer → Prop :=
  World.Sound Anchored (fun _ => advancing) (fun i => (jobs i).Blameless) (fun _ => noMatter)

variable (cfg jobs) in
/-- A step while no request is about to take the volume of a name away. -/
abbrev CalmStep (n : String) : World ι Job.Answer → World ι Job.Answer → Prop :=
  World.StepFrom (fun w => ∀ i t, w.tasks i = some t → ¬ (jobs i).Releases n t) Reports
    fun i => (jobs i).work cfg

theorem Busy.step (h : Busy jobs w) (hs : CalmStep cfg jobs n w w') : Busy jobs w' :=
  World.Sound.step (fits_work cfg jobs) h hs.1

/-- A calm step takes no volume of the name away. -/
theorem Busy.stored_of_calm (h : Busy jobs w) (hs : CalmStep cfg jobs n w w') (hn : Stored n w.cluster) :
    Stored n w'.cluster := by
  obtain ⟨hstep, hcalm⟩ := hs
  cases hstep with
  | disturb ho => exact (h.holds.reports ho).2.2 n id hn
  | start _ => exact hn
  | leave => exact hn
  | move hi hserved =>
    obtain ⟨-, hb, -⟩ := h.keeps _ _ hi _ _ _ (advancing.refl _) h.holds hserved
    exact (hb.2 n hn).resolve_right (hcalm _ _ hi)


/-- What is left of one request sees the volume of the name before it succeeds. -/
abbrev SeesAt (i : ι) (n : String) (w : World ι Job.Answer) : Prop :=
  ∀ t, w.tasks i = some t → Sees n (fun a => ∃ v, a = Job.Answer.created (.ok v)) t w.cluster

theorem Busy.seesAt_of_calm {i : ι} {r : CreateRequest} (h : Busy jobs w) (hi : jobs i = .create r)
    (hs : CalmStep cfg jobs r.name w w') (hsees : SeesAt i r.name w) : SeesAt i r.name w' := by
  have hkept : (keeping r.name).may w.cluster w'.cluster := h.stored_of_calm hs
  obtain ⟨hstep, -⟩ := hs
  intro t ht
  cases hstep with
  | disturb _ => exact (hsees t ht).may hkept
  | @start j hidle =>
    by_cases hj : i = j
    · subst hj
      simp only [Function.update_self, Option.some.injEq, hi] at ht
      exact ht ▸ Job.sees_work cfg r _
    · exact (hsees t (by simpa [hj] using ht)).may hkept
  | @leave j =>
    by_cases hj : i = j
    · subst hj
      simp at ht
    · exact (hsees t (by simpa [hj] using ht)).may hkept
  | @move j e next a s' hj hserved =>
    by_cases hij : i = j
    · subst hij
      simp only [Function.update_self, Option.some.injEq] at ht
      exact ht ▸ (hsees _ hj _ _ _ id trivial hserved).2.2
    · exact (hsees t (by simpa [hij] using ht)).may hkept

theorem Busy.reaches_calm {i : ι} {r : CreateRequest} (h : Busy jobs w) (hi : jobs i = .create r)
    (hs : Relation.ReflTransGen (CalmStep cfg jobs r.name) w w') (hsees : SeesAt i r.name w) :
    Busy jobs w' ∧ SeesAt i r.name w' ∧ (Stored r.name w.cluster → Stored r.name w'.cluster) := by
  induction hs with
  | refl => exact ⟨h, hsees, id⟩
  | tail _ hs ih =>
    obtain ⟨hb, hsee, hst⟩ := ih
    exact ⟨hb.step hs, hb.seesAt_of_calm hi hs hsee, fun hn => hb.stored_of_calm hs (hst hn)⟩

end Worlds

/-! ### The cleanup -/

theorem prompt_release (n : String) : (Provisioning.release n).Prompt := by
  refine .call_bind fun a => ?_
  split
  · trivial
  · trivial
  · split
    · refine .call_bind fun a => ?_
      split
      · split <;> trivial
      · exact .call _
    · exact .call _

/-- **A release that nothing disturbs takes the volume away**, whoever has created it. -/
theorem run_release {sim : Simulation} {signal : StopSignal} {events : List (Nat × Happening)} {k : Nat}
    {v : LogicalVolume} (hs : sim.cluster.Arises) (hf : sim.cluster.failures = [])
    (hv : (sim.cluster.answer (.getVolume n)).1 = .ok (some v))
    (hfin : v.metadata.finalizerList ⊆ [Marks.provisionerFinalizer]) :
    ¬ Stored n (Simulation.run signal events (Provisioning.release n) sim k).2.cluster := by
  have hserves : sim.cluster.Serves (.getVolume n) (.ok (some v)) (sim.cluster.answer (.getVolume n)).2 :=
    .inl (Prod.ext hv rfl)
  have hfailures := failures_answer hf (.getVolume n)
  generalize hs₁ : (sim.cluster.answer (.getVolume n)).2 = s₁ at hserves hfailures
  have hget : s₁.volumes.get? n = some v := hserves.stored
  have hkey : Resource.key v = n := (hs.tidy.serves hserves).volumes n v hget
  have hrun : Simulation.run signal events (Provisioning.release n) sim k =
      Simulation.run signal [] (Provisioning.releaseFound n v) { sim with cluster := s₁ } k := by
    rw [Simulation.run_of_prompt (prompt_release n), Provisioning.release_eq, Simulation.run_call_bind, hv, hs₁]
  have hfreed := (Provisioning.carries_releaseFound (.refl (· = n) (fun _ => False) s₁) hget ⟨hkey, hfin⟩).result
    (Simulation.course_run _ _ signal _ (s := { sim with cluster := s₁ }) hfailures k)
  rw [hrun]
  rintro ⟨w, hw⟩
  rw [hfreed.gone] at hw
  simp at hw

/-- What is left of a request at its cleanup ends with a failure. -/
theorem Job.Releases.ends {n : String} {r : CreateRequest} {t : Routine Job.Answer}
    (h : (Job.create r).Releases n t) : t.Ends fun a => ∃ e, a = .created (.error e) := by
  obtain ⟨-, e, u, start, hl, -, rfl⟩ := h
  have hcleanup : (Provisioning.cleanup r e).Ends fun a => ∃ e, a = .error e := by
    refine (Routine.Ends.trivial (Provisioning.release r.name)).bind fun _ _ => ?_
    exact ⟨e, rfl⟩
  refine (hcleanup.leads hl).bind fun a ha => ?_
  obtain ⟨e', rfl⟩ := ha
  exact fun _ _ => ⟨e', rfl⟩

/-- **A created volume stays as long as no request takes it away.**  From the start of a request to create a volume on,
let no request to delete the volume be at work, and no request to create it whose wait has failed: then, once the
request has succeeded, the volume stays.  And whenever such a wait has failed, the cleanup after it takes the volume
away, whoever has created it. -/
theorem created_volume_stays {ι : Type} [DecidableEq ι] (cfg : ProvisionerConfig) (jobs : ι → Job) :
    (∀ (s : Cluster) (w₁ w₂ w₃ : World ι Job.Answer) (i : ι) (r : CreateRequest) (v : CreatedVolume),
      s.Arises →
      (∀ n v, s.volumes.get? n = some v → v.metadata.isBeingDeleted = true → v.metadata.finalizerList ≠ []) →
      Relation.ReflTransGen (World.Step Reports fun i => (jobs i).work cfg) (World.idle s) w₁ →
      jobs i = .create r → w₁.tasks i = none →
      Relation.ReflTransGen (CalmStep cfg jobs r.name) w₁ w₂ →
      w₂.tasks i = some (.done (.created (.ok v))) →
      Relation.ReflTransGen (CalmStep cfg jobs r.name) w₂ w₃ → Stored r.name w₃.cluster) ∧
    (∀ (sim : Simulation) (signal : StopSignal) (events : List (Nat × Happening)) (k : Nat) (r : CreateRequest)
      (e : Fault) (v : LogicalVolume),
      sim.cluster.Arises → sim.cluster.failures = [] →
      (sim.cluster.answer (.getVolume r.name)).1 = .ok (some v) →
      v.metadata.finalizerList ⊆ [Marks.provisionerFinalizer] →
      let run := Simulation.run signal events (Provisioning.cleanup r e) sim k
      run.1 = .error e ∧ ¬ Stored r.name run.2.cluster) := by
  constructor
  · intro s w₁ w₂ w₃ i r v hs hterm h₁ hi hidle h₂ hdone h₃
    have hb₁ : Busy jobs w₁ :=
      (World.Sound.idle ⟨hs.tidy.volumes, hs.versioned, hterm⟩).reaches (fits_work cfg jobs) h₁
    obtain ⟨hb₂, hsees, -⟩ := hb₁.reaches_calm hi h₂ fun t ht => by simp [hidle] at ht
    have hstored : Stored r.name w₂.cluster := hsees _ hdone w₂.cluster id trivial ⟨v, rfl⟩
    exact (hb₂.reaches_calm hi h₃ hsees).2.2 hstored
  · intro sim signal events k r e v hs hf hv hfin run
    have hrun : run = (.error e, (Simulation.run signal events (Provisioning.release r.name) sim k).2) :=
      Simulation.run_bind (prompt_release r.name) _
    rw [hrun]
    exact ⟨rfl, run_release hs hf hv hfin⟩

namespace Sample

/-- A request for a volume in the group. -/
def request : CreateRequest :=
  { name := "pvc-1", bytes := 1073741824, preferredNode := none
    parameters := NameMap.ofList [(Marks.kindKey, "lvm"), (Marks.lvmTypeKey, "Thick"),
      (Marks.bindingModeKey, "Immediate"), (Marks.volumeGroupsKey, "- name: vg-1\n")] }

/-- A cluster with the group, in which volumes converge at once. -/
def provisionable : Cluster :=
  (({} : Cluster).intervene (.putVolumeGroup group)).intervene (.setConvergence (some ⟨1, 4194304⟩))

/-- The first request for the volume. -/
@[irreducible] def firstRun : Job.Answer × Simulation :=
  Simulation.run .ofRoutine [] ((Job.create request).work {}) { cluster := provisionable } 0

/-- Another request for the same volume, which is cancelled during its first pause. -/
@[irreducible] def secondRun : Job.Answer × Simulation :=
  Simulation.run .ofRoutine [(1, .cancel)] ((Job.create request).work {}) firstRun.2 0

/-- Whether a volume was created. -/
def isCreated : Job.Answer → Bool
  | .created (.ok _) => true
  | _ => false

theorem exists_of_isCreated {a : Job.Answer} (h : isCreated a = true) : ∃ v, a = .created (.ok v) := by
  unfold isCreated at h
  split at h
  · next v => exact ⟨v, rfl⟩
  · cases h

theorem firstRun_succeeds : ∃ v, firstRun.1 = .created (.ok v) := exists_of_isCreated (by decide +kernel)

theorem firstRun_stores : ∃ v, (firstRun.2.cluster.answer (.getVolume request.name)).1 = .ok (some v) ∧
    v.metadata.finalizerList = [Marks.provisionerFinalizer] := by
  have h : ((firstRun.2.cluster.answer (.getVolume request.name)).1.toOption.join.any
      fun v => v.metadata.finalizerList == [Marks.provisionerFinalizer]) = true := by decide +kernel
  obtain ⟨v, hv, hfin⟩ := (Option.any_eq_true _ _).1 h
  exact ⟨v, Except.eq_ok_of_toOption (Option.join_eq_some_iff.1 hv), beq_iff_eq.1 hfin⟩

theorem secondRun_takes_away : secondRun.2.cluster.volumes.get? request.name = none := by
  have h : (secondRun.2.cluster.volumes.get? request.name).isNone = true := by decide +kernel
  exact Option.isNone_iff_eq_none.1 h

theorem arises_provisionable : provisionable.Arises := .intervene _ (.intervene _ .empty)

theorem arises_firstRun : firstRun.2.cluster.Arises := by
  rw [firstRun]
  exact Simulation.arises_run (s := { cluster := provisionable }) arises_provisionable

end Sample

/-- The first request for the volume keeps it; a cleanup after it takes it away. -/
theorem created_volume_stays_first_run :
    (∃ w : World Unit Job.Answer,
      Relation.ReflTransGen (CalmStep {} (fun _ => .create Sample.request) Sample.request.name)
        (World.idle Sample.provisionable) w ∧ Stored Sample.request.name w.cluster) ∧
      ¬ Stored Sample.request.name (Simulation.run .ofRoutine []
        (Provisioning.cleanup Sample.request (.cancelled Sample.request.name)) Sample.firstRun.2 0).2.cluster := by
  obtain ⟨hstays, hgoes⟩ := created_volume_stays {} fun _ : Unit => .create Sample.request
  obtain ⟨v, hv⟩ := Sample.firstRun_succeeds
  constructor
  · let work := (Job.create Sample.request).work {}
    have hrun : Sample.firstRun = Simulation.run .ofRoutine [] work { cluster := Sample.provisionable } 0 := by
      rw [Sample.firstRun]
    let w : World Unit Job.Answer :=
      ⟨Sample.firstRun.2.cluster, Function.update (Function.update (fun _ => none) () (some work)) ()
        (some (.done Sample.firstRun.1))⟩
    have hw : Relation.ReflTransGen (CalmStep {} (fun _ => .create Sample.request) Sample.request.name)
        (World.idle Sample.provisionable) w := by
      refine .head ⟨.start (i := ()) rfl, fun _ t ht => by simp [World.idle] at ht⟩ ?_
      simp only [w, hrun]
      refine World.reaches_run_from _ (fun _ _ h => by simp at h) .ofRoutine work
        { cluster := Sample.provisionable } 0 rfl (by simp [work]) fun c u s' n' hu i t ht hrel => ?_
      -- a request at its cleanup cannot come to the success that the run comes to
      simp only [Function.update_self, Option.some.injEq] at ht
      obtain ⟨e, he⟩ := Simulation.run_of_ends .ofRoutine [] s' n' (ht ▸ hrel.ends)
      rw [he] at hu
      have hbad : Job.Answer.created (.error e) = .created (.ok v) := hu.trans (hrun ▸ hv)
      simp at hbad
    have hnone : ∀ (n : String) (v : LogicalVolume), Sample.provisionable.volumes.get? n = some v →
        v.metadata.isBeingDeleted = true → v.metadata.finalizerList ≠ [] := by
      intro n v h
      simp [Sample.provisionable, intervene, bump] at h
    refine ⟨w, hw, hstays Sample.provisionable (World.idle Sample.provisionable) w w () Sample.request v
      Sample.arises_provisionable hnone .refl rfl rfl hw ?_ .refl⟩
    simp [w, hv]
  · obtain ⟨u, hu, hfin⟩ := Sample.firstRun_stores
    have hf : Sample.firstRun.2.cluster.failures.isEmpty = true := by decide +kernel
    exact (hgoes Sample.firstRun.2 .ofRoutine [] 0 Sample.request _ u Sample.arises_firstRun
      (List.isEmpty_iff.1 hf) hu (hfin ▸ List.Subset.refl _)).2

/-- Two requests to create one volume and none to delete it: the first succeeds, and the cleanup of the second takes
the volume away. -/
theorem created_volume_is_taken_away :
    ∃ (w₁ w₂ : World Bool Job.Answer) (v : CreatedVolume),
      Relation.ReflTransGen (World.Step Reports fun _ => (Job.create Sample.request).work {})
        (World.idle Sample.provisionable) w₁ ∧
      w₁.tasks false = some (.done (.created (.ok v))) ∧
      Relation.ReflTransGen (World.Step Reports fun _ => (Job.create Sample.request).work {}) w₁ w₂ ∧
      ¬ Stored Sample.request.name w₂.cluster := by
  obtain ⟨v, hv⟩ := Sample.firstRun_succeeds
  have hallows : Allows Reports [] := fun _ _ h => by simp at h
  have h₁ := World.reaches_start_run (fun _ : Bool => (Job.create Sample.request).work {})
    (w := World.idle Sample.provisionable) (i := false) hallows .ofRoutine { cluster := Sample.provisionable } 0 rfl rfl
  have e₁ : Sample.firstRun = Simulation.run .ofRoutine [] ((Job.create Sample.request).work {})
      { cluster := Sample.provisionable } 0 := by rw [Sample.firstRun]
  rw [← e₁] at h₁
  have hallows' : Allows Reports [(1, .cancel)] := fun _ _ h => by simp at h
  have h₂ := World.reaches_start_run (fun _ : Bool => (Job.create Sample.request).work {})
    (w := ⟨Sample.firstRun.2.cluster, Function.update (fun _ => none) false (some (.done Sample.firstRun.1))⟩)
    (i := true) hallows' .ofRoutine Sample.firstRun.2 0 rfl (by simp)
  have e₂ : Sample.secondRun = Simulation.run .ofRoutine [(1, .cancel)] ((Job.create Sample.request).work {})
      Sample.firstRun.2 0 := by rw [Sample.secondRun]
  rw [← e₂] at h₂
  refine ⟨_, _, v, h₁, ?_, h₂, ?_⟩
  · simp only [Function.update_self, hv]
  · rintro ⟨w, hw⟩
    rw [Sample.secondRun_takes_away] at hw
    simp at hw

end LocalVolumes
