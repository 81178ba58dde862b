import LocalVolumes.Proofs.Cluster.Journal
import LocalVolumes.Proofs.Growth
import LocalVolumes.Proofs.Retention

/-!
# LocalVolumes.Proofs.Acceptance — when a volume of the exact size is taken

Sizes count as equal if they differ by less than the tolerance.  So a volume of the very size that was asked for is
taken at the first look if the tolerance is positive.  A tolerance of zero takes no size at all: then no volume is ever
created, and to grow a volume to the size that it has is a change.
-/

namespace LocalVolumes

open Cluster Routine

variable {cfg : ProvisionerConfig} {signal : StopSignal} {events : List (Nat × Happening)} {s : Simulation} {n : Nat}

/-! ### A tolerance of zero -/

namespace Provisioning

/-- A routine that fails, whatever the answers. -/
abbrev Vain {α : Type} (t : Routine (Except Fault α)) : Prop := t.Ends fun a => ∃ e, a = .error e

theorem vain_error {α : Type} (e : Fault) : Vain (.done (.error e) : Routine (Except Fault α)) := ⟨e, rfl⟩

/-- What follows something else is in vain if it always is. -/
theorem Vain.after {α β : Type} (t : Routine β) {f : β → Routine (Except Fault α)} (h : ∀ b, Vain (f b)) :
    Vain (t.bind f) := (Ends.trivial t).bind fun b _ => h b

section Zero

variable (hzero : cfg.resizeDelta = 0)

include hzero

theorem look_ne_converged (name : String) (requested : Nat) (found : Option LogicalVolume) :
    look name requested cfg.resizeDelta found ≠ .converged := by
  intro h
  unfold look at h
  split at h
  · cases h
  · split at h
    · cases h
    · split at h
      · cases h
      · split at h
        · next hequal => simp [sizesEqual, hzero] at hequal
        · cases h
    · cases h

theorem vain_waitForConvergence (name : String) (requested : Nat) (operation : String) :
    Vain (waitForConvergence cfg name requested operation) := by
  rw [waitForConvergence_eq]
  refine .after _ fun start => await_induction vain_error ?_ (fun _ => .after _) (fun _ => .after _) fun _ => .after _
  exact fun found _ hlook => absurd hlook (look_ne_converged hzero name requested found)

/-- What follows a wait has failed with it. -/
theorem vain_wait_bind {α : Type} (name : String) (requested : Nat) (operation : String)
    {f : Except Fault Nat → Routine (Except Fault α)} (h : ∀ e, Vain (f (.error e))) :
    Vain ((waitForConvergence cfg name requested operation).bind f) :=
  (vain_waitForConvergence hzero name requested operation).bind fun _ ⟨e, he⟩ => he ▸ h e

theorem vain_settle (r : CreateRequest) (d : Decision) : Vain (settle cfg r d) := by
  rw [settle_eq]
  exact vain_wait_bind hzero _ _ _ fun e => .after _ fun _ => vain_error e

theorem vain_create (r : CreateRequest) : Vain (create cfg r) := by
  obtain ⟨e, he⟩ | ⟨p, -, -, hc⟩ := create_cases cfg r
  · exact he ▸ vain_error e
  · rw [hc]
    refine .after _ fun a => ?_
    obtain ⟨e, he⟩ | ⟨inventory, d, -, -, hc⟩ := createAmong_cases cfg r p a
    · exact he ▸ vain_error e
    · rw [hc, createAt_eq]
      refine .after _ fun a => ?_
      obtain hc | ⟨e, -, he⟩ := settleIfAsked_cases cfg r d a
      · exact hc ▸ vain_settle hzero r d
      · exact he ▸ vain_error e

/-- A volume is not grown to the size that it has. -/
theorem vain_expandFound {r : ExpandRequest} {v : LogicalVolume} (hactual : v.actualBytes = .ok r.bytes) :
    Vain (expandFound cfg r v) := by
  have hbytes : r.bytes < sizeLimit := Quantity.bytesOrZero_lt hactual
  have hsmall : isLargeEnough r.bytes r.bytes cfg.resizeDelta = false := by
    simp only [isLargeEnough, sizesEqual, hzero, Bool.or_eq_false_iff, decide_eq_false_iff_not]
    omega
  simp only [expandFound, hactual, hsmall]
  refine .after _ fun a => ?_
  cases a with
  | error e => exact vain_error e
  | ok u =>
    refine .after _ fun a => ?_
    cases a with
    | error e => exact vain_error e
    | ok _ => exact vain_wait_bind hzero _ _ _ fun e => vain_error e

end Zero

theorem Vain.measured {α : Type} {work : Routine (Except Fault α)} (h : Vain work) (operation : String) :
    Vain (measured operation work) := by
  rw [measured_eq]
  refine .after _ fun start => Ends.bind h ?_
  rintro a ⟨e, rfl⟩
  exact Vain.after _ fun _ => .after _ fun _ => vain_error e

end Provisioning

/-! ### A positive tolerance -/

theorem sizesEqual_self {size delta : Nat} : sizesEqual size size delta = true ↔ 0 < delta := by
  simp [sizesEqual]

namespace Simulation

theorem run_now_bind {α : Type} (f : Nat → Routine α) :
    run signal events (Routine.now.bind f) s n = run signal events (f s.time) s n := rfl

theorem run_pause_bind {α : Type} {ms : Nat} (f : Bool → Routine α) (hbefore : s.isInterrupted signal = false)
    (hafter : (s.sleep events (n + 1) ms).isInterrupted signal = false) :
    run signal events ((Routine.pause ms).bind f) s n =
      run signal events (f false) (s.sleep events (n + 1) ms) (n + 1) := by
  have hrun : run signal events ((Routine.pause ms).bind f) s n =
      if s.isInterrupted signal then run signal events (f true) s n
      else run signal events (f ((s.sleep events (n + 1) ms).isInterrupted signal)) (s.sleep events (n + 1) ms)
        (n + 1) := rfl
  rw [hrun, hbefore, if_neg Bool.false_ne_true, hafter]

end Simulation

namespace Provisioning

/-- Work that is measured comes to the same, and does the same to the cluster. -/
theorem run_measured {α : Type} (signal : StopSignal) (events : List (Nat × Happening)) (s : Simulation) (n : Nat)
    (operation : String) (work : Routine (Except Fault α)) :
    (Simulation.run signal events (measured operation work) s n).1 = (Simulation.run signal events work s n).1 ∧
      (Simulation.run signal events (measured operation work) s n).2.cluster =
        (Simulation.run signal events work s n).2.cluster := by
  rw [measured_eq, Simulation.run_now_bind]
  generalize s.time = start
  induction work generalizing s n with
  | done a => exact ⟨rfl, rfl⟩
  | ask e next ih =>
    cases e with
    | call c => exact ih _ _ n
    | now => exact ih _ _ n
    | record x => exact ih _ _ n
    | pause ms =>
      simp only [bind_ask, Simulation.run]
      split
      · exact ih _ _ n
      · exact ih _ _ (n + 1)

/-- No cancellation prevents the first look at a volume, after one pause, and it meets the exact size. -/
structure MeetsExactly (cfg : ProvisionerConfig) (signal : StopSignal) (events : List (Nat × Happening))
    (name : String) (bytes : Nat) (s : Simulation) (n : Nat) (v : LogicalVolume) : Prop where
  before : s.isInterrupted signal = false
  after : (s.sleep events (n + 1) cfg.pollInterval).isInterrupted signal = false
  look : ((s.sleep events (n + 1) cfg.pollInterval).cluster.answer (.getVolume name)).1 = .ok (some v)
  phase : v.phase = some .created
  actual : v.actualBytes = .ok bytes

/-- The first look at a volume of the exact size ends a wait. -/
theorem run_wait_bind {name : String} {bytes : Nat} {v : LogicalVolume} (operation : String)
    (hpos : 0 < cfg.resizeDelta) (h : MeetsExactly cfg signal events name bytes s n v) :
    ∃ s', ∀ {α : Type} (f : Except Fault Nat → Routine α),
      Simulation.run signal events ((waitForConvergence cfg name bytes operation).bind f) s n =
        Simulation.run signal events (f (.ok 1)) s' (n + 1) := by
  have hconverged : look name bytes cfg.resizeDelta (some v) = .converged := by
    simp [look, h.phase, h.actual, sizesEqual_self.2 hpos]
  obtain ⟨fuel, hfuel⟩ : ∃ fuel, maxAttempts = fuel + 1 := ⟨maxAttempts - 1, rfl⟩
  let looked := s.sleep events (n + 1) cfg.pollInterval
  let answered : Simulation := { looked with cluster := (looked.cluster.answer (.getVolume name)).2 }
  refine ⟨{ answered with metrics := answered.metrics.record (.convergence operation 1) }, fun f => ?_⟩
  rw [waitForConvergence_eq, hfuel, bind_assoc, Simulation.run_now_bind, await_succ, bind_assoc,
    Simulation.run_pause_bind _ h.before h.after, if_neg Bool.false_ne_true, bind_assoc, Simulation.run_call_bind,
    h.look]
  simp only [judged, hconverged]
  rfl

/-- A volume can be asked for: it has a name and a place, there is none of its name, and neither the look at the groups
nor the creation is planned to fail. -/
structure Placeable (r : CreateRequest) (p : VolumeParameters) (d : Decision) (s : Cluster) : Prop where
  named : r.name ≠ ""
  parameters : VolumeParameters.ofMap r.parameters = .ok p
  placed : place r p s.groups.values = .ok d
  fresh : s.volumes.get? r.name = none
  listed : s.Unplanned .listVolumeGroups
  created : s.Unplanned (.createVolume r.name)

variable {r : CreateRequest} {p : VolumeParameters} {d : Decision} {c : Cluster}

theorem Placeable.answer_listVolumeGroups (h : Placeable r p d c) :
    c.answer .listVolumeGroups = (.ok c.groups.values, c) := by
  rw [answer, attempt, takeFailure_eq_none_iff.2 h.listed]

theorem Placeable.answer_createVolume (h : Placeable r p d c) :
    ∃ stored, (c.answer (.createVolume (LogicalVolume.request r.name (volumeSpec r p d)))).1 = .ok stored := by
  let v := LogicalVolume.request r.name (volumeSpec r p d)
  have hcreate : createObject LogicalVolume.kind c.bump.volumes v c.bump.versionText =
      .ok (stamped v c.bump.versionText none, c.volumes.insert (Resource.key v) (stamped v c.bump.versionText none)) :=
    createObject_eq_ok_iff.2 ⟨h.fresh, rfl, rfl⟩
  have hunplanned : c.Unplanned (.createVolume (Resource.key v)) := h.created
  refine ⟨stamped v c.bump.versionText none, ?_⟩
  rw [answer, write, attempt, takeFailure_eq_none_iff.2 hunplanned]
  dsimp only
  rw [hcreate]
  rfl

/-- The simulation once a volume was asked for. -/
def askedFor (r : CreateRequest) (p : VolumeParameters) (d : Decision) (s : Simulation) : Simulation :=
  { s with cluster := (s.cluster.answer (.createVolume (LogicalVolume.request r.name (volumeSpec r p d)))).2 }

theorem run_settle {v : LogicalVolume} (hpos : 0 < cfg.resizeDelta)
    (h : MeetsExactly cfg signal events r.name r.bytes s n v) :
    (Simulation.run signal events (settle cfg r d) s n).1 = .ok (createdVolume r d) := by
  obtain ⟨s', hrun⟩ := run_wait_bind "create_volume" hpos h
  rw [settle_eq, hrun]
  rfl

theorem create_of_parameters (hname : r.name ≠ "") (hp : VolumeParameters.ofMap r.parameters = .ok p) :
    create cfg r = (Routine.call .listVolumeGroups).bind (createAmong cfg r p) := by
  rw [create, if_neg hname, hp]
  exact congrArg (Routine.call .listVolumeGroups).bind (funext fun a => by cases a <;> rfl)

/-- A request to create a volume takes the volume of the exact size. -/
theorem run_create {v : LogicalVolume} (hpos : 0 < cfg.resizeDelta) (h : Placeable r p d s.cluster)
    (hmeets : MeetsExactly cfg signal events r.name r.bytes (askedFor r p d s) n v) :
    (Simulation.run signal events (create cfg r) s n).1 = .ok (createdVolume r d) := by
  obtain ⟨stored, hstored⟩ := h.answer_createVolume
  have hamong : createAmong cfg r p (.ok s.cluster.groups.values) = createAt cfg r p d := by
    simp only [createAmong, h.placed]
  rw [create_of_parameters h.named h.parameters, Simulation.run_call_bind, h.answer_listVolumeGroups, hamong,
    createAt_eq, Simulation.run_call_bind, hstored]
  exact run_settle hpos hmeets

/-- A request to grow a volume that is large enough is answered at once. -/
theorem run_expand_of_isLargeEnough {r : ExpandRequest} {v : LogicalVolume} {actual : Nat} (hid : r.id ≠ "")
    (hlook : (s.cluster.answer (.getVolume r.id)).1 = .ok (some v)) (hactual : v.actualBytes = .ok actual)
    (hlarge : isLargeEnough r.bytes actual cfg.resizeDelta = true) :
    Simulation.run signal events (expand cfg r) s n =
      (.ok ⟨actual, !r.block⟩, { s with cluster := (s.cluster.answer (.getVolume r.id)).2 }) := by
  rw [expand_eq hid, Simulation.run_call_bind, hlook]
  simp only [expandFound, hactual, hlarge, if_true, Simulation.run_done]

/-- A request to grow a volume to the size that it has is answered at once. -/
theorem run_expand {r : ExpandRequest} {v : LogicalVolume} (hpos : 0 < cfg.resizeDelta) (hid : r.id ≠ "")
    (hlook : (s.cluster.answer (.getVolume r.id)).1 = .ok (some v)) (hactual : v.actualBytes = .ok r.bytes) :
    Simulation.run signal events (expand cfg r) s n =
      (.ok ⟨r.bytes, !r.block⟩, { s with cluster := (s.cluster.answer (.getVolume r.id)).2 }) := by
  refine run_expand_of_isLargeEnough hid hlook hactual ?_
  rw [isLargeEnough, sizesEqual_self.2 hpos, Bool.or_true]

/-! ### The requests -/

theorem run_createVolume_of_zero (signal : StopSignal) (events : List (Nat × Happening)) (s : Simulation) (n : Nat)
    (hzero : cfg.resizeDelta = 0) (r : CreateRequest) :
    ∃ e, (Simulation.run signal events (createVolume cfg r) s n).1 = .error e :=
  Simulation.run_of_ends signal events s n ((vain_create hzero r).measured "create_volume")

theorem run_expandVolume_of_zero {r : ExpandRequest} {v : LogicalVolume} (signal : StopSignal)
    (events : List (Nat × Happening)) (s : Simulation) (n : Nat) (hzero : cfg.resizeDelta = 0) (hid : r.id ≠ "")
    (hlook : (s.cluster.answer (.getVolume r.id)).1 = .ok (some v)) (hactual : v.actualBytes = .ok r.bytes) :
    ∃ e, (Simulation.run signal events (expandVolume cfg r) s n).1 = .error e := by
  rw [expandVolume, (run_measured ..).1, expand_eq hid, Simulation.run_call_bind, hlook]
  exact Simulation.run_of_ends signal events _ n (vain_expandFound hzero hactual)

end Provisioning

open Provisioning

/-- **A volume of the exact size is taken if, and only if, the tolerance is positive.**  This is so of a volume that was
asked for, at the first look at it, and of one that is to grow to the size that it has, which then takes no write.

A volume that was asked for is waited for, so the timeout is bounded there: with a deadline that is too late for the
clock the program would stop instead.  A request to grow that is answered at once does not wait. -/
theorem exact_size_is_taken (cfg : ProvisionerConfig) (signal : StopSignal) (events : List (Nat × Happening))
    (s : Simulation) (n : Nat) :
    (cfg.FitsClock s.time → ∀ r p d v, Placeable r p d s.cluster →
      MeetsExactly cfg signal events r.name r.bytes (askedFor r p d s) n v →
      ((∃ a, (Simulation.run signal events (createVolume cfg r) s n).1 = .ok a) ↔ 0 < cfg.resizeDelta)) ∧
    ∀ r v, r.id ≠ "" → (s.cluster.answer (.getVolume r.id)).1 = .ok (some v) → v.actualBytes = .ok r.bytes →
      let run := Simulation.run signal events (expandVolume cfg r) s n
      (run.1 = .ok ⟨r.bytes, !r.block⟩ ∧ run.2.cluster = (s.cluster.answer (.getVolume r.id)).2 ↔
        0 < cfg.resizeDelta) := by
  constructor
  · intro _ r p d v hplace hmeets
    refine ⟨fun ⟨a, ha⟩ => Nat.pos_of_ne_zero fun hzero => ?_, fun hpos => ⟨createdVolume r d, ?_⟩⟩
    · obtain ⟨e, he⟩ := run_createVolume_of_zero signal events s n hzero r
      rw [he] at ha
      cases ha
    · rw [createVolume, (run_measured ..).1]
      exact run_create hpos hplace hmeets
  · intro r v hid hlook hactual run
    refine ⟨fun ⟨hok, _⟩ => Nat.pos_of_ne_zero fun hzero => ?_, fun hpos => ?_⟩
    · obtain ⟨e, he⟩ := run_expandVolume_of_zero signal events s n hzero hid hlook hactual
      cases he.symm.trans hok
    · obtain ⟨hresult, hcluster⟩ := run_measured signal events s n "expand_volume" (expand cfg r)
      rw [run_expand hpos hid hlook hactual] at hresult hcluster
      exact ⟨hresult, hcluster⟩

namespace Sample

/-- The cluster in which volumes converge at once, before the request for one. -/
def unprovisioned : Simulation := { cluster := provisionable }

/-- The volume of the request is there with its exact size at the first look. -/
theorem meetsExactly (cfg : ProvisionerConfig) :
    ∃ p d v, Placeable request p d unprovisioned.cluster ∧
      MeetsExactly cfg .ofRoutine [] request.name request.bytes (askedFor request p d unprovisioned) 0 v := by
  have h : ((VolumeParameters.ofMap request.parameters).toOption.any fun p =>
      (place request p provisionable.groups.values).toOption.any fun d =>
        ((askedFor request p d unprovisioned).cluster.answer (.getVolume request.name)).1.toOption.join.any fun v =>
          v.phase == some .created && v.actualBytes.toOption == some request.bytes) = true := by decide +kernel
  obtain ⟨p, hp, h⟩ := (Option.any_eq_true _ _).1 h
  obtain ⟨d, hd, h⟩ := (Option.any_eq_true _ _).1 h
  obtain ⟨v, hv, h⟩ := (Option.any_eq_true _ _).1 h
  obtain ⟨hphase, hactual⟩ := Bool.and_eq_true_iff.1 h
  have hunplanned (op : Operation) : provisionable.Unplanned op := by
    simp [Unplanned, provisionable, intervene, bump]
  have hplace : Placeable request p d provisionable :=
    ⟨by decide, Except.eq_ok_of_toOption hp, Except.eq_ok_of_toOption hd, rfl, hunplanned _, hunplanned _⟩
  refine ⟨p, d, v, hplace, rfl, rfl, ?_, beq_iff_eq.1 hphase, Except.eq_ok_of_toOption (beq_iff_eq.1 hactual)⟩
  exact Except.eq_ok_of_toOption (Option.join_eq_some_iff.1 hv)

theorem bytes_gibibyte : (⟨"1Gi"⟩ : Quantity).bytes = .ok 1073741824 := by decide +kernel

end Sample

/-- With the tolerance that is the default, a volume of one gibibyte is created, and is not grown to one. -/
theorem exact_size_is_taken_default :
    (∃ a, (Simulation.run .ofRoutine [] (createVolume {} Sample.request) Sample.unprovisioned 0).1 = .ok a) ∧
      (Simulation.run .ofRoutine [] (expandVolume {} (Sample.growth 1073741824)) { cluster := Sample.allotted "1Gi" }
        0).1 = .ok ⟨1073741824, true⟩ := by
  obtain ⟨p, d, v, hplace, hmeets⟩ := Sample.meetsExactly {}
  obtain ⟨w, hlook, hactual⟩ := Sample.exists_allotted Sample.bytes_gibibyte
  obtain ⟨hcreate, -⟩ := exact_size_is_taken {} .ofRoutine [] Sample.unprovisioned 0
  obtain ⟨-, hexpand⟩ := exact_size_is_taken {} .ofRoutine [] { cluster := Sample.allotted "1Gi" } 0
  exact ⟨(hcreate (by decide) Sample.request p d v hplace hmeets).2 (by decide),
    ((hexpand (Sample.growth 1073741824) w (by decide) hlook hactual).2 (by decide)).1⟩

/-- With a tolerance of zero neither happens, though the clock can tell the deadline. -/
theorem exact_size_is_not_taken :
    ProvisionerConfig.FitsClock { resizeDelta := 0 } Sample.unprovisioned.time ∧
      (∃ p d v, Placeable Sample.request p d Sample.unprovisioned.cluster ∧
        MeetsExactly { resizeDelta := 0 } .ofRoutine [] Sample.request.name Sample.request.bytes
          (askedFor Sample.request p d Sample.unprovisioned) 0 v) ∧
      (∃ e, (Simulation.run .ofRoutine [] (createVolume { resizeDelta := 0 } Sample.request) Sample.unprovisioned
        0).1 = .error e) ∧
      ∃ v, ((Sample.allotted "1Gi").answer (.getVolume "pvc-1")).1 = .ok (some v) ∧ v.actualBytes = .ok 1073741824 ∧
        ∃ e, (Simulation.run .ofRoutine [] (expandVolume { resizeDelta := 0 } (Sample.growth 1073741824))
          { cluster := Sample.allotted "1Gi" } 0).1 = .error e := by
  obtain ⟨v, hlook, hactual⟩ := Sample.exists_allotted Sample.bytes_gibibyte
  have hid : (Sample.growth 1073741824).id ≠ "" := by decide
  exact ⟨by decide, Sample.meetsExactly _, run_createVolume_of_zero .ofRoutine [] _ 0 rfl _, v, hlook, hactual,
    run_expandVolume_of_zero .ofRoutine [] _ 0 rfl hid hlook hactual⟩

end LocalVolumes
