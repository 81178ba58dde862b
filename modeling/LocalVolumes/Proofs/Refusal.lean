import LocalVolumes.Proofs.Cluster.Lifecycle
import LocalVolumes.Proofs.Cluster.Reporting
import LocalVolumes.Proofs.Materialization
import LocalVolumes.Proofs.Provisioning
import LocalVolumes.Proofs.Simulation
import LocalVolumes.Service

/-!
# LocalVolumes.Proofs.Refusal — a request that is refused writes nothing

The service tells its clients by the status of an answer whether the request was at fault.  Nobody else acts and no
call fails, so a write that an operation asks for succeeds, and what can go wrong after it lies with the node: the wait
is over, cancelled or hopeless.  So what is answered as a refusal was found out before the first write.  All that may
have changed is what nodes report on volumes that are looked at.
-/

namespace LocalVolumes

open Cluster Provisioning Service

/-- A status by which a request is refused: something is wrong with the request, or there is no room for it. -/
def Service.IsRefusal (status : Nat) : Prop := 400 ≤ status ∧ status < 500 ∨ status = 507

/-- A failure that is answered by a refusal. -/
def Fault.Refuses (e : Fault) : Prop := IsRefusal (errorStatus e).1

variable {α : Type} {n : String} {s t t' : Cluster} {cfg : ProvisionerConfig}

/-! ### Failures that come late -/

/-- A failure of the wait for a volume that is there: the wait is over, was cancelled or is hopeless, or it cannot be
told how large the volume is. -/
inductive Fault.OfWait : Fault → Prop
  | timeout (name : String) (attempts : Nat) : OfWait (.timeout name attempts)
  | cancelled (operation : String) : OfWait (.cancelled operation)
  | volumeFailed (name reason : String) : OfWait (.volumeFailed name reason)
  | quantity (cause : Quantity.Fault) : OfWait cause.toFault

theorem Fault.OfWait.not_refuses {e : Fault} (h : e.OfWait) : ¬ e.Refuses := by
  cases h <;> simp [Refuses, IsRefusal, errorStatus, Quantity.Fault.toFault]

theorem Provisioning.ofWait_of_look {requested delta : Nat} {v : LogicalVolume} {e : Fault}
    (h : look n requested delta (some v) = .stopped e) : e.OfWait := by
  unfold look at h
  dsimp only at h
  split at h
  · exact Look.stopped.inj h ▸ .volumeFailed _ _
  · split at h
    · exact Look.stopped.inj h ▸ .quantity _
    · split at h <;> simp at h
  · simp at h

/-- A volume does not converge by itself if it cannot be told how large it is to be. -/
theorem Cluster.pollVolume_eq_error {v : LogicalVolume} {e : Fault} (h : (pollVolume n v s).1 = .error e) :
    ∃ cause : Quantity.Fault, e = cause.toFault := by
  unfold pollVolume at h
  split at h
  · simp at h
  dsimp only at h
  split at h
  · simp at h
  split at h
  · next cause _ => exact ⟨cause, (Except.error.inj h).symm⟩
  · simp at h

/-- Where no failure is planned, a look fails only if it cannot be told how large the volume is to be. -/
theorem Cluster.ofWait_of_getVolume (hf : s.failures = []) {e : Fault}
    (h : (s.answer (.getVolume n)).1 = .error e) : e.OfWait := by
  rw [answer, attempt_eq hf] at h
  split at h
  · simp at h
  next v hv =>
  split at h
  · next e' t hp =>
    obtain ⟨cause, he⟩ := pollVolume_eq_error (congrArg Prod.fst hp)
    rw [← Except.error.inj h, he]
    exact .quantity cause
  · simp at h

/-! ### What is kept until the first write -/

/-- Only looks were made since a state, and no failure is planned. -/
structure Intact (s t : Cluster) : Prop where
  reports : OnlyReports (fun _ => True) s t
  anchored : Anchored t
  failures : t.failures = []

/-- What an operation ends with: if that is a refusal, only looks were made. -/
def Declines (s : Cluster) (r : Except Fault α) (t : Cluster) : Prop :=
  ∀ e, r = .error e → e.Refuses → OnlyReports (fun _ => True) s t

theorem Intact.declines (h : Intact s t) (r : Except Fault α) : Declines s r t := fun _ _ _ => h.reports

theorem declines_ok (a : α) : Declines s (.ok a) t := by
  rintro e ⟨⟩

theorem declines_of_ofWait {e : Fault} (h : e.OfWait) : Declines s (α := α) (.error e) t := by
  rintro e' ⟨⟩ hr
  exact absurd hr h.not_refuses

theorem Intact.getVolume (h : Intact s t) {r : Except Fault (Option LogicalVolume)}
    (ha : t.answer (.getVolume n) = (r, t')) (hf : t'.failures = []) : Intact s t' :=
  ⟨h.reports.trans (Serves.onlyReports_getVolume trivial (.inl ha)), (h.anchored.getVolume (.inl ha)).1, hf⟩

theorem Intact.listVolumeGroups (h : Intact s t) {r : Except Fault (List VolumeGroup)}
    (ha : t.answer .listVolumeGroups = (r, t')) (hf : t'.failures = []) : Intact s t' :=
  ⟨h.reports.trans (Serves.onlyReports_listVolumeGroups (.inl ha)), (h.anchored.listVolumeGroups (.inl ha)).1, hf⟩

theorem Intact.getVolumeGroup (h : Intact s t) {name : String} {r : Except Fault (Option VolumeGroup)}
    (ha : t.answer (.getVolumeGroup name) = (r, t')) : Intact s t' := by
  obtain ⟨-, rfl⟩ := Prod.mk.inj ha
  exact h

namespace Provisioning

/-! ### Waits -/

/-- A wait for a volume that is there has no other failures. -/
theorem alone_await (requested : Nat) (operation : String) (deadline fuel attempts : Nat) (hf : s.failures = [])
    (hn : Stored n s) :
    (await cfg n requested operation deadline fuel attempts).Alone (fun r _ => ∀ e, r = .error e → e.OfWait) s := by
  have herror {s : Cluster} {e : Fault} (he : e.OfWait) :
      Routine.Alone (fun (r : Except Fault Nat) _ => ∀ e, r = .error e → e.OfWait) (.done (.error e)) s := by
    rintro e' ⟨⟩
    exact he
  induction fuel generalizing s attempts with
  | zero => exact herror (.timeout _ _)
  | succ fuel ih =>
    refine .pause_bind fun cancelled => ?_
    cases cancelled with
    | true => exact herror (.cancelled _)
    | false =>
      refine .serve_bind hf fun r s' ha hf' => ?_
      have hserves : s.Serves (.getVolume n) r s' := .inl ha
      have hreports : OnlyReports (fun _ => True) s s' := hserves.onlyReports_getVolume trivial
      have hn' : Stored n s' := hreports.stored_iff.2 hn
      cases r with
      | error e => exact herror (ofWait_of_getVolume hf (congrArg Prod.fst ha))
      | ok found =>
        obtain ⟨v, hv⟩ := hn'
        obtain rfl : some v = found := hv.symm.trans hserves.get?_of_getVolume
        dsimp only
        split
        · next e hlook => exact herror (ofWait_of_look hlook)
        · rintro e ⟨⟩
        · refine .now_bind fun time => ?_
          split
          · exact herror (.timeout _ _)
          · exact ih _ hf' ⟨v, hv⟩

theorem alone_waitForConvergence (requested : Nat) (operation : String) (hf : s.failures = []) (hn : Stored n s) :
    (waitForConvergence cfg n requested operation).Alone (fun r _ => ∀ e, r = .error e → e.OfWait) s :=
  fun _ => alone_await _ _ _ _ _ hf hn

/-! ### Release -/

/-- A volume that was found is released. -/
theorem alone_releaseFound {v : LogicalVolume} (hf : s.failures = []) (hv : s.volumes.get? n = some v)
    (hk : Resource.key v = n) : (releaseFound n v).Alone (fun r _ => r = .ok ()) s := by
  have hdelete {t : Cluster} (hf : t.failures = []) :
      (Routine.call (.deleteVolume n)).Alone (fun r _ => r = .ok ()) t := by
    rw [← Routine.bind_pure_right (Routine.call _)]
    exact .call_bind (answer_deleteVolume hf n) rfl
  unfold releaseFound
  split
  · next stripped hstripped =>
    obtain rfl := congrArg Prod.fst hstripped
    have hk' : Resource.key v.removeFinalizer.1 = n := hk
    obtain ⟨resized, ps, ha⟩ := answer_replaceVolume (v := v.removeFinalizer.1) hf (hk'.symm ▸ hv) (isCurrent_self v)
    exact .call_bind ha (hdelete hf)
  · exact hdelete hf

theorem declines_release (h : Intact s t) (n : String) : (release n).Alone (Declines s) t := by
  rw [release_eq]
  refine .serve_bind h.failures fun r t' ha hf => ?_
  have ht := h.getVolume ha hf
  cases r with
  | error e => exact ht.declines _
  | ok found =>
    cases found with
    | none => exact declines_ok _
    | some v =>
      have hv : t'.volumes.get? n = some v := Serves.get?_of_getVolume (.inl ha)
      refine (alone_releaseFound hf hv (ht.anchored.keyed n v hv)).mono fun r u hr => ?_
      subst hr
      exact declines_ok ()

/-! ### Creation -/

/-- Once a volume is there, a request for it is not refused. -/
theorem declines_settle (r : CreateRequest) (d : Decision) (hf : t.failures = []) (hn : Stored r.name t) :
    (settle cfg r d).Alone (Declines s) t := by
  rw [settle_eq]
  refine .bind (alone_waitForConvergence r.bytes "create_volume" hf hn) fun a u ha => ?_
  cases a with
  | ok _ => exact declines_ok _
  | error e =>
    -- the volume is released, whatever comes of it
    have hreleased : (release r.name).Alone (fun _ _ => True) u := .of_forall _ fun _ _ => trivial
    refine .bind hreleased fun _ _ _ => ?_
    exact declines_of_ofWait (ha e rfl)

theorem declines_createAt (h : Intact s t) (r : CreateRequest) (p : VolumeParameters) (d : Decision) :
    (createAt cfg r p d).Alone (Declines s) t := by
  rw [createAt_eq]
  cases hv : t.volumes.get? r.name with
  | none =>
    refine .call_bind (answer_createVolume h.failures hv) (declines_settle r d h.failures ?_)
    exact ⟨_, (NameMap.get?_insert ..).trans (if_pos rfl)⟩
  | some v => exact .call_bind (answer_createVolume_of_taken h.failures hv) (declines_settle r d h.failures ⟨v, hv⟩)

theorem declines_create (h : Intact s t) (r : CreateRequest) : (create cfg r).Alone (Declines s) t := by
  obtain ⟨e, he⟩ | ⟨p, -, -, hc⟩ := create_cases cfg r
  · exact he ▸ h.declines _
  · rw [hc]
    refine .serve_bind h.failures fun a t' ha hf => ?_
    have ht := h.listVolumeGroups ha hf
    obtain ⟨e, he⟩ | ⟨inventory, d, -, -, hc⟩ := createAmong_cases cfg r p a
    · exact he ▸ ht.declines _
    · exact hc ▸ declines_createAt ht r p d

/-! ### Growth -/

theorem alone_checkRoom (h : Intact s t) (v : LogicalVolume) (growth : Nat) :
    (checkRoom v growth).Alone (fun _ u => Intact s u ∧ u.volumes = t.volumes) t := by
  unfold checkRoom
  split
  · exact ⟨h, rfl⟩
  · refine .serve_bind h.failures fun a u ha hf => ?_
    have hu : Intact s u ∧ u.volumes = t.volumes :=
      ⟨h.getVolumeGroup ha, (Serves.frame (.inl ha)).volumes id⟩
    cases a <;> exact hu

/-- A larger volume takes the place of one that is there, and is there afterwards. -/
theorem declines_grow (h : Intact s t) {r : ExpandRequest} {v : LogicalVolume} (hv : t.volumes.get? r.id = some v) :
    (grow cfg r v).Alone (Declines s) t := by
  let larger : LogicalVolume := { v with spec := { v.spec with size := ⟨toString r.bytes⟩ } }
  have hk : Resource.key larger = r.id := h.anchored.keyed r.id v hv
  obtain ⟨resized, ps, ha⟩ := answer_replaceVolume (v := larger) h.failures (hk.symm ▸ hv) (isCurrent_self v)
  have hserves : t.Serves (.replaceVolume larger) _ _ := .inl ha
  have hretains := (h.anchored.replaceVolume hk hserves).2 fun w hw _ =>
    congrArg (·.metadata.finalizerList) (Option.some.inj (hv.symm.trans hw))
  refine .call_bind ha ?_
  refine .bind (alone_waitForConvergence r.bytes "expand_volume" h.failures (hretains.2 r.id id ⟨v, hv⟩)) fun a u ha => ?_
  cases a with
  | error e => exact declines_of_ofWait (ha e rfl)
  | ok _ => exact declines_ok _

theorem declines_expand (h : Intact s t) (r : ExpandRequest) : (expand cfg r).Alone (Declines s) t := by
  unfold expand
  split
  · exact h.declines _
  refine .serve_bind h.failures fun a t' ha hf => ?_
  have ht := h.getVolume ha hf
  split
  · exact ht.declines _
  · exact ht.declines _
  next v =>
  have hv : t'.volumes.get? r.id = some v := Serves.get?_of_getVolume (.inl ha)
  split
  · exact ht.declines _
  split
  · exact declines_ok _
  refine .bind (alone_checkRoom ht v _) fun a u ⟨hu, hvols⟩ => ?_
  cases a with
  | error e => exact hu.declines _
  | ok _ => exact declines_grow hu (hvols ▸ hv)

theorem declines_measured {operation : String} {work : Routine (Except Fault α)} (h : work.Alone (Declines s) t) :
    (measured operation work).Alone (Declines s) t := by
  rw [measured_eq]
  refine .now_bind fun start => .bind h fun a u hu => ?_
  exact .now_bind fun finish => hu

end Provisioning

/-! ### The service -/

/-- What a request is answered with: if that is a refusal, only looks were made. -/
def Service.Answers (s : Cluster) (a : Response) (t : Cluster) : Prop :=
  IsRefusal a.status → OnlyReports (fun _ => True) s t

namespace Service

/-- The answer to a request whose work ends without a refusal before it has written. -/
theorem answers_of_declines {work : Routine (Except Fault α)} {f : Except Fault α → Routine Response}
    (h : work.Alone (Declines s) t) (hok : ∀ a, ∃ r, f (.ok a) = .done r ∧ ¬ IsRefusal r.status)
    (herror : ∀ e, f (.error e) = .done (errorResponse e)) : (work.bind f).Alone (Answers s) t := by
  refine .bind h fun a u hu => ?_
  cases a with
  | ok a =>
    obtain ⟨r, hr, hstatus⟩ := hok a
    rw [hr]
    exact fun hrefusal => absurd hrefusal hstatus
  | error e =>
    rw [herror e]
    exact hu e rfl

theorem answers_answerCreate (h : Intact s t) (r : Request) : (answerCreate cfg r).Alone (Answers s) t := by
  unfold answerCreate
  split
  · exact fun _ => h.reports
  next request _ =>
  refine answers_of_declines (declines_measured (declines_create h request)) (fun v => ⟨_, rfl, ?_⟩) fun e => rfl
  simp [jsonResponse, IsRefusal]

theorem answers_answerDelete (h : Intact s t) (id : String) : (answerDelete id).Alone (Answers s) t := by
  refine answers_of_declines (declines_measured ?_) (fun v => ⟨_, rfl, ?_⟩) fun e => rfl
  · split
    · exact h.declines _
    · exact declines_release h id
  · simp [IsRefusal]

theorem answers_answerExpand (h : Intact s t) (id : String) (r : Request) :
    (answerExpand cfg id r).Alone (Answers s) t := by
  unfold answerExpand
  split
  · exact fun _ => h.reports
  next request _ =>
  refine answers_of_declines (declines_measured (declines_expand h request)) (fun v => ⟨_, rfl, ?_⟩) fun e => rfl
  simp [jsonResponse, IsRefusal]

theorem answers_withName (h : Intact s t) (part : String) {next : String → Routine Response}
    (hnext : ∀ name, (next name).Alone (Answers s) t) : (withName part next).Alone (Answers s) t := by
  unfold withName
  split
  · exact hnext _
  · exact fun _ => h.reports

theorem answers_answer (h : Intact s t) (stopping : Bool) (r : Request) (route : Route) :
    (answer cfg stopping r route).Alone (Answers s) t := by
  cases route with
  | volumes => exact answers_answerCreate h r
  | volume part => exact answers_withName h part fun name => answers_answerDelete h name
  | expansion part => exact answers_withName h part fun name => answers_answerExpand h name r
  | health => exact fun _ => h.reports
  | ready =>
    simp only [answer]
    split <;> exact fun _ => h.reports

theorem answers_respond (h : Intact s t) (stopping : Bool) (r : Request) :
    (respond cfg stopping r).Alone (Answers s) t := by
  unfold respond
  split
  · exact fun _ => h.reports
  split
  · refine .bind (answers_answer h stopping r _) fun a u hu hrefusal => hu ?_
    -- a body that is left out does not change the status
    unfold trimmed at hrefusal
    split at hrefusal <;> exact hrefusal
  · exact fun _ => h.reports

end Service

/-- **A request that is refused writes nothing.**  Nobody else acts, though time may pass and the service may be told to
stop; no call fails, and every object that is being deleted has finalizers.  If the status of the answer says that
something is wrong with the request, or that there is no room for it, the journal is as it was, and so are all storage
classes, local classes and groups; of the volumes only what the nodes report may have changed. -/
theorem refused_request_writes_nothing {s : Simulation} {events : List (Nat × Happening)} (cfg : ProvisionerConfig)
    (signal : StopSignal) (stopping : Bool) (r : Service.Request) (hs : s.cluster.Arises)
    (hf : s.cluster.failures = []) (hheld : s.cluster.HeldBack) (hevents : Simulation.Unattended events) :
    let a := s.perform signal events (Service.respond cfg stopping r)
    400 ≤ a.1.status ∧ a.1.status < 500 ∨ a.1.status = 507 →
      a.2.cluster.journal = s.cluster.journal ∧ a.2.cluster.storageClasses = s.cluster.storageClasses ∧
        a.2.cluster.localClasses = s.cluster.localClasses ∧ a.2.cluster.groups = s.cluster.groups ∧
        OnlyReports (fun _ => True) s.cluster a.2.cluster := by
  intro a hrefusal
  have hanchored : Anchored s.cluster := ⟨hs.tidy.volumes, hs.versioned, fun n v hv => hheld.volume hv⟩
  have hintact : Intact s.cluster s.cluster := ⟨.refl _ _, hanchored, hf⟩
  have hreports : OnlyReports (fun _ => True) s.cluster a.2.cluster :=
    Routine.Alone.run_unattended (s := { s with cancelled := false }) hevents (answers_respond hintact stopping r)
      hrefusal
  exact ⟨hreports.journal, hreports.storageClasses, hreports.localClasses, hreports.groups, hreports⟩

namespace Sample

/-- A volume of one gibibyte in the group. -/
def smallVolume : LogicalVolume :=
  LogicalVolume.request "pvc-1" ⟨"pvc-1", .thick, ⟨"1Gi"⟩, "vg-1", none, some ⟨false⟩⟩

/-- A cluster with the group, and with the volume as its node has made it. -/
def stockedCluster : Cluster :=
  ((Cluster.after {} (.intervention (.putVolumeGroup group))).after (.call (.createVolume smallVolume))).after
    (.intervention (.reportVolume "pvc-1" ⟨some .created, none, some ⟨"1Gi"⟩⟩))

/-- The request to grow the volume past what the group has. -/
def greedyRequest : Service.Request :=
  { method := "POST", path := "/v1/volumes/pvc-1/expand", body := "\x7b\"capacityBytes\": 21474836480\x7d"
    contentType := some "application/json" }

theorem ofPath?_greedyRequest : Route.ofPath? greedyRequest.path = some (.expansion "pvc-1") := by
  have hpath : String.ofList (greedyRequest.path.toList.takeWhile (fun c => c ≠ '?' && c ≠ '#')) =
      "/v1/volumes/pvc-1/expand" := by decide
  have hparts : "/v1/volumes/pvc-1/expand".splitOn "/" = ["", "v1", "volumes", "pvc-1", "expand"] := by
    rw [String.splitOn, if_neg (by decide)]
    -- one step for each character of the path
    repeat (rw [String.splitOnAux]; simp +decide only [if_true, if_false])
  rw [Route.ofPath?, hpath, hparts]
  rfl

/-- What comes of it. -/
@[irreducible] def greedyRun : Service.Response × Simulation :=
  ({ cluster := stockedCluster } : Simulation).perform .ofService []
    (.bind (answer {} false greedyRequest (.expansion "pvc-1")) fun a => .done (trimmed greedyRequest a))

theorem greedyRun_eq : greedyRun = ({ cluster := stockedCluster } : Simulation).perform .ofService []
    (respond {} false greedyRequest) := by
  rw [greedyRun, respond, ofPath?_greedyRequest]
  rfl

end Sample

/-- There is no room for the volume to grow, and it is not asked for. -/
theorem refused_request_writes_nothing_greedy :
    Sample.greedyRun.1.status = 507 ∧
      Sample.greedyRun.2.cluster.journal = [.createVolume "pvc-1"] := by
  have hlives : Lives (fun _ => True) {} Sample.stockedCluster :=
    .tail _ (.tail _ (.tail _ .refl trivial trivial) trivial trivial) trivial trivial
  have hstatus : Sample.greedyRun.1.status = 507 := by decide +kernel
  have hevents : Simulation.Unattended [] := fun _ _ he => by simp at he
  have hrefused := refused_request_writes_nothing (s := { cluster := Sample.stockedCluster }) {} .ofService false
    Sample.greedyRequest (hlives.arises .empty) (by decide +kernel) (hlives.heldBack heldBack_empty) hevents
  rw [← Sample.greedyRun_eq] at hrefused
  obtain ⟨hjournal, -⟩ := hrefused (.inr hstatus)
  exact ⟨hstatus, hjournal.trans (by decide +kernel)⟩

end LocalVolumes
