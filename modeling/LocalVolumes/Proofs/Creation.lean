import LocalVolumes.Proofs.Candidates
import LocalVolumes.Proofs.Cluster.Frame
import LocalVolumes.Proofs.Quantity
import LocalVolumes.Proofs.Release
import LocalVolumes.Proofs.Retention

/-!
# LocalVolumes.Proofs.Creation — what a request to create a volume leaves behind

A request to create a volume ends in one of two ways.  If it succeeds, a volume of its name is there as it was declared
when the request came to it: the one that the request has asked for, or one that was there before.  If it fails and its
cleanup goes undisturbed, no volume of the name is there, provided there was none before.  Nothing else is changed in
either case, and a request without a place for its volume does not even ask for a write.
-/

namespace LocalVolumes

open Cluster Routine

variable {cfg : ProvisionerConfig} {r : CreateRequest} {p : VolumeParameters} {d : Decision} {s s' : Cluster}
  {on : String → Prop}

namespace Provisioning

/-! ### Success -/

/-- A wait leaves all that is declared as it is, and ends well only if the volume is there. -/
theorem keeps_waitForConvergence {n : String} (hn : on n) (requested : Nat) (operation : String) :
    (waitForConvergence cfg n requested operation).Keeps (fun _ => True) (reporting on) (fun _ _ _ => True)
      (fun a s' => OnlyReports on s s' ∧ ((∃ k, a = .ok k) → Stored n s')) s := by
  have hwait : (waitForConvergence cfg n requested operation).Keeps (OnlyReports on s) (reporting on)
      (fun _ _ _ => True) (fun a s' => (∃ k, a = .ok k) → Stored n s') s := by
    refine .now (fun _ => trivial) fun time => ?_
    exact keeps_await (fun _ _ => trivial) (fun _ _ _ _ hi hs => ⟨hi.trans (hs.onlyReports_getVolume hn), trivial⟩)
      (fun _ v hv => ⟨v, hv⟩) (fun _ _ hr => (OnlyReports.stored_iff hr).2) ..
  exact hwait.holds (.refl on s) fun _ _ h hr => h.trans hr

/-- What is asked of a request that succeeds at a place. -/
def Placed (on : String → Prop) (r : CreateRequest) (d : Decision) (s : Cluster) (a : Except Fault CreatedVolume)
    (s' : Cluster) : Prop :=
  ∀ v, a = .ok v → v = createdVolume r d ∧ OnlyReports on s s' ∧ Stored r.name s'

theorem keeps_settle (hn : on r.name) (d : Decision) :
    (settle cfg r d).Keeps (fun _ => True) (reporting on) (fun _ _ _ => True) (Placed on r d s) s := by
  rw [settle_eq]
  refine Keeps.bind (keeps_waitForConvergence hn r.bytes "create_volume") fun a s₁ _ h => ?_
  obtain ⟨hr, hst⟩ := h
  cases a with
  | ok k =>
    intro s₂ hr₂ _ v hv
    exact ⟨(Except.ok.inj hv).symm, hr.trans hr₂, hr₂.stored_iff.2 (hst ⟨k, rfl⟩)⟩
  | error e =>
    refine Keeps.bind (q := noMatter) (.trivial _ (fun _ => trivial) (fun _ _ _ => trivial) fun _ _ => trivial)
      fun _ _ _ _ s₂ _ _ v hv => ?_
    simp at hv

/-- What is declared of the volume that a request comes to: of the one that is there, or else of a new one. -/
def intended (r : CreateRequest) (p : VolumeParameters) (d : Decision) (s : Cluster) : LogicalVolume :=
  ((s.volumes.get? r.name).getD (LogicalVolume.request r.name (volumeSpec r p d))).declared

theorem intended_of_none (h : s.volumes.get? r.name = none) :
    intended r p d s = LogicalVolume.request r.name (volumeSpec r p d) := by
  rw [intended, h]
  rfl

theorem intended_of_onlyReports (h : OnlyReports on s s') : intended r p d s' = intended r p d s := by
  simp only [intended, ← Option.getD_map LogicalVolume.declared, h.declared _ id]

/-- A request was fulfilled at a place. -/
structure Provided (r : CreateRequest) (p : VolumeParameters) (d : Decision) (s : Cluster) (v : CreatedVolume)
    (s' : Cluster) : Prop where
  parameters : VolumeParameters.ofMap r.parameters = .ok p
  placed : place r p s.groups.values = .ok d
  answer : v = createdVolume r d
  groups : s'.groups = s.groups
  stored : (s'.volumes.get? r.name).map LogicalVolume.declared = some (intended r p d s)

/-- A volume that is there already is left as it is declared; otherwise the new one is there. -/
theorem keeps_createAt (hn : on r.name) (p : VolumeParameters) (d : Decision) :
    (createAt cfg r p d).Keeps (fun _ => True) (reporting on) (fun _ _ _ => True)
      (fun a s' => ∀ v, a = .ok v → v = createdVolume r d ∧ s'.groups = s.groups ∧
        (s'.volumes.get? r.name).map LogicalVolume.declared = some (intended r p d s)) s := by
  rw [createAt_eq]
  refine .call fun s₁ a s₂ hr _ hs => ⟨trivial, trivial, ?_⟩
  replace hr : OnlyReports on s s₁ := hr
  have hsettle (hgroups : s₂.groups = s.groups)
      (hthere : Stored r.name s₂ → (s₂.volumes.get? r.name).map LogicalVolume.declared = some (intended r p d s)) :
      (settle cfg r d).Keeps (fun _ => True) (reporting on) (fun _ _ _ => True)
        (fun a s' => ∀ v, a = .ok v → v = createdVolume r d ∧ s'.groups = s.groups ∧
          (s'.volumes.get? r.name).map LogicalVolume.declared = some (intended r p d s)) s₂ := by
    refine (keeps_settle hn d).mono (fun _ _ _ _ => trivial) fun a s' _ h v hv => ?_
    obtain ⟨ha, hrep, hst⟩ := h v hv
    exact ⟨ha, hrep.groups.trans hgroups, (hrep.declared _ id).trans (hthere (hrep.stored_iff.1 hst))⟩
  have hkey : Resource.key (LogicalVolume.request r.name (volumeSpec r p d)) = r.name := Resource.key_of_name rfl
  rcases hs.createVolume with ⟨⟨e, rfl⟩, hrest⟩ | ⟨hnone, rfl, rfl⟩
  · have hrep : OnlyReports on s s₂ := hr.trans (.of_rests hrest)
    obtain hc | ⟨e, -, he⟩ := settleIfAsked_cases cfg r d (.error e)
    · rw [hc]
      refine hsettle hrep.groups fun hst => ?_
      obtain ⟨w, hw⟩ := hrep.stored_iff.1 hst
      rw [hrep.declared _ id, intended, hw]
      rfl
    · rw [he]
      intro s₃ _ _ v hv
      simp at hv
  · rw [hkey, hr.get?_eq_none_iff] at hnone
    refine hsettle hr.groups fun _ => ?_
    simp only [hkey, NameMap.get?_insert, if_true, intended, hnone]
    rfl

/-- **A request that succeeds is fulfilled at a place.** -/
theorem keeps_create_ok (hn : on r.name) :
    (create cfg r).Keeps (fun _ => True) (reporting on) (fun _ _ _ => True)
      (fun a s' => ∀ v, a = .ok v → ∃ p d, Provided r p d s v s') s := by
  have herror {s₁ : Cluster} {e : Fault} :
      Keeps (fun _ => True) (reporting on) (fun _ _ _ => True)
        (fun (a : Except Fault CreatedVolume) s' => ∀ v, a = .ok v → ∃ p d, Provided r p d s v s')
        (.done (.error e)) s₁ := by
    intro s₂ _ _ v hv
    simp at hv
  obtain ⟨e, he⟩ | ⟨p, -, hp, hc⟩ := create_cases cfg r
  · exact he ▸ herror
  · rw [hc]
    refine .call fun s₁ a s₂ hr _ hs => ⟨trivial, trivial, ?_⟩
    replace hr : OnlyReports on s s₁ := hr
    have hrep : OnlyReports on s s₂ := hr.trans hs.onlyReports_listVolumeGroups
    obtain ⟨e, he⟩ | ⟨inventory, d, rfl, hd, hc⟩ := createAmong_cases cfg r p a
    · exact he ▸ herror
    · obtain rfl := hs.eq_values
      rw [hr.groups] at hd
      rw [hc]
      refine (keeps_createAt hn p d).mono (fun _ _ _ _ => trivial) fun a s' _ h v hv => ?_
      obtain ⟨ha, hgroups, hst⟩ := h v hv
      refine ⟨p, d, hp, hd, ha, hgroups.trans hrep.groups, hst.trans ?_⟩
      rw [intended_of_onlyReports hrep]

/-! ### Failure -/

/-- Nothing differs but the volume of a request and what is reported; if the request has failed, the volume is not
there. -/
structure LeavesNothing (on : String → Prop) (r : CreateRequest) (s : Cluster) (a : Except Fault CreatedVolume)
    (s' : Cluster) : Prop extends Confined (· = r.name) on s s' where
  gone (e : Fault) : a = .error e → s'.volumes.get? r.name = none

theorem LeavesNothing.reports {a : Except Fault CreatedVolume} {s'' : Cluster} (h : LeavesNothing on r s a s')
    (hr : OnlyReports on s' s'') : LeavesNothing on r s a s'' :=
  ⟨h.toConfined.trans hr.confined, fun e he => hr.get?_eq_none_iff.2 (h.gone e he)⟩

/-- What is left of a request at its cleanup. -/
def AtCleanup (r : CreateRequest) (u : Routine (Except Fault CreatedVolume)) : Prop :=
  ∃ e, Leads (cleanup r e) u ∧ u.IsUnderWay

/-- A volume that is there is the one that the request has asked for. -/
def AsksFor (r : CreateRequest) (p : VolumeParameters) (d : Decision) (s : Cluster) : Prop :=
  ∀ w, s.volumes.get? r.name = some w → w.declared = LogicalVolume.request r.name (volumeSpec r p d)

theorem AsksFor.onlyReports (h : AsksFor r p d s) (hr : OnlyReports on s s') : AsksFor r p d s' := by
  intro v hv
  obtain ⟨w, hw, he⟩ := hr.exists_declared hv
  exact he.symm.trans (h w hw)

/-- A cleanup that nobody disturbs leaves no volume that the request has asked for. -/
theorem carries_cleanup (hb : r.bytes < sizeLimit) (h : AsksFor r p d s) (e : Fault) :
    (cleanup r e).Carries (fun _ => True) (reporting on) (fun _ => Freed r.name on s) s := by
  have hreleasable : ∀ v, s.volumes.get? r.name = some v → Releasable r.name v := fun v hv =>
    releasable_declared.1 (h v hv ▸ ⟨Resource.key_of_name rfl, List.Subset.refl _⟩)
  have hrequested : ∀ v, s.volumes.get? r.name = some v → ∃ b, v.requestedBytes = .ok b := fun v hv => by
    have hsize : v.declared.requestedBytes = .ok r.bytes := by
      rw [h v hv]
      exact Quantity.bytes_toString hb
    exact ⟨r.bytes, hsize⟩
  exact Carries.bind (carries_release hreleasable hrequested) fun _ s₁ hf s₂ hr => hf.reports hr

theorem carries_settle (hn : on r.name) (hb : r.bytes < sizeLimit) {s₀ : Cluster}
    (hs : Confined (· = r.name) on s₀ s) (h : AsksFor r p d s) :
    (settle cfg r d).Carries (AtCleanup r) (reporting on) (LeavesNothing on r s₀) s := by
  rw [settle_eq]
  refine Carries.bind (keeps_waitForConvergence hn r.bytes "create_volume").carries fun a s₁ hwait => ?_
  obtain ⟨hr, -⟩ := hwait
  cases a with
  | ok k => exact fun s₂ hr₂ => ⟨hs.trans (hr.trans hr₂).confined, fun e he => by simp at he⟩
  | error e =>
    refine ((carries_cleanup hb (h.onlyReports hr) e).leads.shelter fun u hu => ⟨e, hu⟩).mono fun a s₂ hf => ?_
    exact ⟨(hs.trans hr.confined).trans hf.toConfined, fun _ _ => hf.gone⟩

/-- A failure before anything is asked for. -/
theorem carries_error {sheltered : Routine (Except Fault CreatedVolume) → Prop} (hnone : s.volumes.get? r.name = none)
    (hr : OnlyReports on s s') (e : Fault) :
    (Routine.done (.error e)).Carries sheltered (reporting on) (LeavesNothing on r s) s' :=
  fun _ hr' => ⟨(hr.trans hr').confined, fun _ _ => (hr.trans hr').get?_eq_none_iff.2 hnone⟩

theorem carries_createAt (hn : on r.name) (hb : r.bytes < sizeLimit) {s₀ : Cluster} (hr : OnlyReports on s₀ s)
    (hnone : s₀.volumes.get? r.name = none) (p : VolumeParameters) (d : Decision) :
    (createAt cfg r p d).Carries (AtCleanup r) (reporting on) (LeavesNothing on r s₀) s := by
  rw [createAt_eq]
  refine .call fun s₁ a s₂ hr₁ hs => ?_
  replace hr₁ : OnlyReports on s₀ s₁ := hr.trans hr₁
  have hkey : Resource.key (LogicalVolume.request r.name (volumeSpec r p d)) = r.name := Resource.key_of_name rfl
  rcases hs.createVolume with ⟨⟨e, rfl⟩, hrest⟩ | ⟨-, rfl, rfl⟩
  · have hrep : OnlyReports on s₀ s₂ := hr₁.trans (.of_rests hrest)
    obtain hc | ⟨e, -, he⟩ := settleIfAsked_cases cfg r d (.error e)
    · rw [hc]
      refine carries_settle (p := p) hn hb hrep.confined fun w hw => ?_
      rw [hrep.get?_eq_none_iff.2 hnone] at hw
      simp at hw
    · exact he ▸ carries_error hnone hrep e
  · refine carries_settle (p := p) hn hb (hr₁.confined.trans ?_) fun w hw => ?_
    · exact .of_volumes rfl rfl rfl fun k hk => by simp [hkey, NameMap.get?_insert, hk]
    · simp only [hkey, NameMap.get?_insert, if_true, Option.some.injEq] at hw
      exact hw ▸ rfl

/-- **A request whose cleanup goes undisturbed leaves nothing if it fails.** -/
theorem carries_create (hn : on r.name) (hb : r.bytes < sizeLimit) (hnone : s.volumes.get? r.name = none)
    {s₁ : Cluster} (hr : OnlyReports on s s₁) :
    (create cfg r).Carries (AtCleanup r) (reporting on) (LeavesNothing on r s) s₁ := by
  obtain ⟨e, he⟩ | ⟨p, -, -, hc⟩ := create_cases cfg r
  · exact he ▸ carries_error hnone hr e
  · rw [hc]
    refine .call fun s₂ a s₃ hr₂ hs => ?_
    have hrep : OnlyReports on s s₃ := (hr.trans hr₂).trans hs.onlyReports_listVolumeGroups
    obtain ⟨e, he⟩ | ⟨inventory, d, -, -, hc⟩ := createAmong_cases cfg r p a
    · exact he ▸ carries_error hnone hrep e
    · exact hc ▸ carries_createAt hn hb hrep hnone p d

theorem Provided.reports {v : CreatedVolume} {s'' : Cluster} (h : Provided r p d s v s') (hr : OnlyReports on s' s'') :
    Provided r p d s v s'' :=
  ⟨h.parameters, h.placed, h.answer, hr.groups.trans h.groups, (hr.declared _ id).trans h.stored⟩

end Provisioning

/-! ### Requests without a place -/

open Provisioning

/-- What is left of a routine asks for a write. -/
def Routine.AsksWrite {α : Type} : Routine α → Prop
  | .ask (.call c) _ => c.entries ≠ []
  | _ => False

/-- A request has a name, parameters that can be read, and a place among the groups. -/
def CreateRequest.HasPlace (r : CreateRequest) (inventory : List VolumeGroup) : Prop :=
  r.name ≠ "" ∧ ∃ p d, VolumeParameters.ofMap r.parameters = .ok p ∧ place r p inventory = .ok d

/-- A request without a place fails and asks for no write. -/
theorem Provisioning.keeps_refused (h : ¬ r.HasPlace s.groups.values) {β : Type}
    (f : Except Fault CreatedVolume → Routine β) {s₁ : Cluster} :
    (create cfg r).Keeps (OnlyReports on s) (reporting on) (fun u _ _ => ¬ (u.bind f).AsksWrite)
      (fun a _ => ∃ e, a = .error e) s₁ := by
  have herror {s₁ : Cluster} (e : Fault) :
      Keeps (OnlyReports on s) (reporting on) (fun u _ _ => ¬ (u.bind f).AsksWrite)
        (fun a _ => ∃ e, a = .error e) (.done (.error e)) s₁ := fun _ _ _ => ⟨e, rfl⟩
  obtain ⟨e, he⟩ | ⟨p, hname, hp, hc⟩ := create_cases cfg r
  · exact he ▸ herror e
  · rw [hc]
    refine .call fun s₂ a s₃ _ hi hs => ⟨hi.trans hs.onlyReports_listVolumeGroups, fun hw => hw rfl, ?_⟩
    obtain ⟨e, he⟩ | ⟨inventory, d, rfl, hd, hc⟩ := createAmong_cases cfg r p a
    · exact he ▸ herror e
    · obtain rfl := hs.eq_values
      rw [hi.groups] at hd
      exact absurd ⟨hname, p, d, hp, hd⟩ h

/-! ### The whole of the work -/

namespace Job

theorem work_create (cfg : ProvisionerConfig) (r : CreateRequest) :
    (Job.create r).work cfg = Routine.now.bind fun start => (Provisioning.create cfg r).bind (answered start) := by
  have hassoc (start : Nat) :
      ((Provisioning.create cfg r).bind (counted "create_volume" start)).bind (fun a => .done (.created a)) =
        (Provisioning.create cfg r).bind (answered start) := Routine.bind_assoc ..
  rw [work, createVolume, measured_eq, Routine.bind_assoc]
  exact congrArg _ (funext hassoc)

theorem answered_eq (start : Nat) (a : Except Fault CreatedVolume) :
    answered start a = Routine.now.bind fun finish =>
      (Routine.record (.provisioning "create_volume" (match a with
        | .ok _ => true
        | .error _ => false) (finish - start))).bind fun _ => .done (.created a) := by
  cases a <;> rfl

/-- Between the end of the work and the answer nothing happens to the cluster. -/
theorem keeps_answered {inv : Cluster → Prop} {R : Rely} {guar : Routine Answer → Cluster → Cluster → Prop}
    {post : Answer → Cluster → Prop} (hg : ∀ e next s, (∀ c, e ≠ .call c) → guar (.ask e next) s s)
    {start : Nat} {a : Except Fault CreatedVolume} (h : ∀ s₁, R.may s s₁ → inv s₁ → post (.created a) s₁) :
    (answered start a).Keeps inv R guar post s := by
  rw [answered_eq]
  refine .now (fun s => hg _ _ s fun c => by simp) fun finish => ?_
  exact .record (fun s => hg _ _ s fun c => by simp) h

theorem keeps_work_ok (hn : on r.name) :
    ((Job.create r).work cfg).Keeps (fun _ => True) (reporting on) (fun _ _ _ => True)
      (fun a s' => ∀ v, a = .created (.ok v) → ∃ p d, Provided r p d s v s') s := by
  rw [work_create]
  refine .now (fun _ => trivial) fun start => ?_
  refine Keeps.bind (keeps_create_ok hn) fun a s₁ _ h => ?_
  refine keeps_answered (fun _ _ _ _ => trivial) fun s₂ hr _ v hv => ?_
  obtain ⟨p, d, hp⟩ := h v (Answer.created.inj hv)
  exact ⟨p, d, hp.reports hr⟩

theorem carries_work (hn : on r.name) (hb : r.bytes < sizeLimit) (hnone : s.volumes.get? r.name = none) :
    ((Job.create r).work cfg).Carries ((Job.create r).Releases r.name) (reporting on)
      (fun a s' => ∀ b, a = .created b → LeavesNothing on r s b s') s := by
  rw [work_create]
  refine Carries.now fun start s₁ hr => ?_
  have hcreate : (Provisioning.create cfg r).Carries
      (fun u => (Job.create r).Releases r.name (u.bind (answered start))) (reporting on) (LeavesNothing on r s) s₁ :=
    (carries_create hn hb hnone hr).shelter fun u ⟨e, hl, hu⟩ => ⟨rfl, e, u, start, hl, hu, rfl⟩
  refine hcreate.bind fun a s₂ h => ?_
  have hend : (answered start a).Keeps (fun _ => True) (reporting on) (fun _ _ _ => True)
      (fun a s' => ∀ b, a = .created b → LeavesNothing on r s b s') s₂ := by
    refine keeps_answered (fun _ _ _ _ => trivial) fun s₃ hr₃ _ b hb => ?_
    exact Answer.created.inj hb ▸ h.reports hr₃
  exact hend.carries

theorem keeps_work_refused (h : ¬ r.HasPlace s.groups.values) :
    ((Job.create r).work cfg).Keeps (OnlyReports on s) (reporting on) (fun u _ _ => ¬ u.AsksWrite)
      (fun a _ => ∃ e, a = .created (.error e)) s := by
  rw [work_create]
  refine .now (fun _ => id) fun start => ?_
  refine Keeps.bind (keeps_refused h _) fun a s₁ _ ha => ?_
  obtain ⟨e, rfl⟩ := ha
  refine keeps_answered (fun e next s he hw => ?_) fun _ _ _ => ⟨e, rfl⟩
  cases e with
  | call c => exact he c rfl
  | now => exact hw
  | pause ms => exact hw
  | record x => exact hw

end Job

/-- A volume is the one that a request asks for: it has the name and the size of the request, the type and, if it is
thick, the contiguity of its parameters, the group and, if it has one, the pool of its place, and the finalizer of the
provisioner. -/
structure LogicalVolume.IsAskedFor (w : LogicalVolume) (r : CreateRequest) (p : VolumeParameters) (d : Decision) :
    Prop where
  actualName : w.spec.actualName = r.name
  lvmType : w.spec.lvmType = p.lvmType
  groupName : w.spec.groupName = d.group
  pool : w.spec.thin.map (·.poolName) = d.thinPool
  contiguous : w.spec.thick.map (·.contiguous) = if p.lvmType = .thick then some p.contiguous else none
  sizeText : w.spec.size.text = toString r.bytes
  size : w.spec.size.bytes = .ok r.bytes
  finalizers : w.metadata.finalizers = some [Marks.provisionerFinalizer]

theorem LogicalVolume.isAskedFor_request (hb : r.bytes < sizeLimit) (p : VolumeParameters) (d : Decision) :
    (LogicalVolume.request r.name (volumeSpec r p d)).IsAskedFor r p d where
  actualName := rfl
  lvmType := rfl
  groupName := rfl
  pool := by
    show (d.thinPool.map ThinPoolRef.mk).map (·.poolName) = d.thinPool
    rw [Option.map_map]
    exact Option.map_id' ..
  contiguous := by
    show (volumeSpec r p d).thick.map (·.contiguous) = _
    unfold volumeSpec
    cases p.lvmType <;> rfl
  sizeText := rfl
  size := Quantity.bytes_toString hb
  finalizers := rfl

/-- It is told by what is declared of a volume. -/
theorem LogicalVolume.IsAskedFor.declared {w w' : LogicalVolume} (h : w.IsAskedFor r p d) (hd : w'.declared = w) :
    w'.IsAskedFor r p d := by
  subst hd
  exact ⟨h.actualName, h.lvmType, h.groupName, h.pool, h.contiguous, h.sizeText, h.size, h.finalizers⟩

/-- How a request to create a volume may end: with a volume as it was asked for at its place, or without a volume. -/
def Job.EndsAs (r : CreateRequest) (inventory : List VolumeGroup) (s' : Cluster) : Except Fault CreatedVolume → Prop
  | .ok _ => ∃ p d w, VolumeParameters.ofMap r.parameters = .ok p ∧ place r p inventory = .ok d ∧
      s'.volumes.get? r.name = some w ∧ w.IsAskedFor r p d
  | .error _ => s'.volumes.get? r.name = none

/-- **A request to create a volume leaves all or nothing.**  Let no volume of its name be there.  The nodes report on
the volume and on others, any call may fail on its way and the request may be cancelled, but its cleanup goes
undisturbed.  Then it ends with a volume as it was asked for at its place, or without one, and nothing differs but
that volume and what is reported on others.  A request without a place for its volume asks for no write and fails. -/
theorem created_or_nothing (cfg : ProvisionerConfig) (on : String → Prop) {r : CreateRequest}
    (hb : r.bytes < sizeLimit) {s : Cluster} (hnone : s.volumes.get? r.name = none) :
    let Run := Course ((Job.create r).Releases r.name) (reporting fun n => on n ∨ n = r.name)
      ((Job.create r).work cfg) s
    (∀ a s', Run (.done (.created a)) s' → Confined (· = r.name) on s s' ∧ Job.EndsAs r s.groups.values s' a) ∧
    (¬ r.HasPlace s.groups.values → ∀ u s', Run u s' →
      s'.journal = s.journal ∧ ¬ u.AsksWrite ∧ ∀ v, u ≠ .done (.created (.ok v))) := by
  intro Run
  constructor
  · intro a s' hrun
    have hleaves := (Job.carries_work (.inr rfl) hb hnone).result hrun a rfl
    refine ⟨hleaves.narrow, ?_⟩
    cases a with
    | error e => exact hleaves.gone e rfl
    | ok v =>
      obtain ⟨-, hkeeps⟩ := (Job.keeps_work_ok (.inr rfl)).progress trivial (fun _ _ _ _ => trivial) hrun.progress
      obtain ⟨p, d, hprovided⟩ := hkeeps s' ((reporting _).refl s') trivial v rfl
      obtain ⟨w, hw, hd⟩ := Option.map_eq_some_iff.1 hprovided.stored
      rw [intended_of_none hnone] at hd
      exact ⟨p, d, w, hprovided.parameters, hprovided.placed, hw,
        (LogicalVolume.isAskedFor_request hb p d).declared hd⟩
  · intro hplace u s' hrun
    obtain ⟨hrep, hkeeps⟩ := (Job.keeps_work_refused hplace).progress (.refl _ s)
      (fun _ _ h hr => h.trans hr) hrun.progress
    refine ⟨hrep.journal, fun hw => ?_, fun v hv => ?_⟩
    · match u, hkeeps, hw with
      | .ask (.call c) next, hkeeps, hw =>
        exact (hkeeps s' _ _ ((reporting _).refl s') hrep (serves_answer s' c)).2.1 hw
    · subst hv
      obtain ⟨e, he⟩ := hkeeps s' ((reporting _).refl s') hrep
      simp at he

namespace Sample

/-- The request for the volume, cancelled before its first pause. -/
@[irreducible] def cancelledRun : Job.Answer × Simulation :=
  Simulation.run .ofRoutine [] ((Job.create request).work {}) { cluster := provisionable, cancelled := true } 0

/-- Whether a volume could not be created. -/
def isNotCreated : Job.Answer → Bool
  | .created (.error _) => true
  | _ => false

theorem exists_of_isNotCreated {a : Job.Answer} (h : isNotCreated a = true) : ∃ e, a = .created (.error e) := by
  unfold isNotCreated at h
  split at h
  · next e => exact ⟨e, rfl⟩
  · cases h

theorem cancelledRun_fails : ∃ e, cancelledRun.1 = .created (.error e) := exists_of_isNotCreated (by decide +kernel)

theorem cancelledRun_journal :
    cancelledRun.2.cluster.journal = [.createVolume "pvc-1", .replaceVolume "pvc-1", .deleteVolume "pvc-1"] := by
  decide +kernel

/-- The request for a thin volume in a pool. -/
def thinRequest : CreateRequest :=
  { request with
    parameters := NameMap.ofList [(Marks.kindKey, "lvm"), (Marks.lvmTypeKey, "Thin"),
      (Marks.bindingModeKey, "Immediate"), (Marks.volumeGroupsKey, "- name: vg-2\n  thin:\n    poolName: pool\n")] }

/-- A cluster with the group of the pool, in which volumes converge at once. -/
def pooled : Cluster :=
  (({} : Cluster).intervene (.putVolumeGroup stocked)).intervene (.setConvergence (some ⟨1, 4194304⟩))

/-- The first request for the thin volume. -/
@[irreducible] def thinRun : Job.Answer × Simulation :=
  Simulation.run .ofRoutine [] ((Job.create thinRequest).work {}) { cluster := pooled } 0

theorem thinRun_succeeds : ∃ v, thinRun.1 = .created (.ok v) := exists_of_isCreated (by decide +kernel)

theorem volumes_provisionable (n : String) : provisionable.volumes.get? n = none := by
  simp [provisionable, intervene, bump]

theorem volumes_pooled (n : String) : pooled.volumes.get? n = none := by
  simp [pooled, intervene, bump]

theorem ofMap_request :
    VolumeParameters.ofMap request.parameters = .ok ⟨.thick, .immediate, [.ofGroup "vg-1"], false⟩ :=
  Except.eq_ok_of_toOption (by decide +kernel)

theorem place_request : place request ⟨.thick, .immediate, [.ofGroup "vg-1"], false⟩ provisionable.groups.values =
    .ok ⟨"node-1", "vg-1", "data", none⟩ := Except.eq_ok_of_toOption (by decide +kernel)

theorem ofMap_thinRequest :
    VolumeParameters.ofMap thinRequest.parameters = .ok ⟨.thin, .immediate, [.ofPool "vg-2" "pool"], false⟩ :=
  Except.eq_ok_of_toOption (by decide +kernel)

theorem place_thinRequest : place thinRequest ⟨.thin, .immediate, [.ofPool "vg-2" "pool"], false⟩ pooled.groups.values =
    .ok ⟨"node-2", "vg-2", "fast", some "pool"⟩ := Except.eq_ok_of_toOption (by decide +kernel)

end Sample

/-- The request for the thick volume leaves it in its group, and the one for the thin volume leaves it in its pool, each
with the finalizer.  If the first is cancelled it leaves nothing, though it has written, and without a name it asks for
no write. -/
theorem created_or_nothing_first_run :
    let Run (r : CreateRequest) := Course ((Job.create r).Releases r.name) (reporting fun n => False ∨ n = r.name)
      ((Job.create r).work {})
    (∃ v s' w, Run Sample.request Sample.provisionable (.done (.created (.ok v))) s' ∧
      s'.volumes.get? "pvc-1" = some w ∧ w.spec.lvmType = .thick ∧ w.spec.groupName = "vg-1" ∧ w.spec.thin = none ∧
      w.spec.thick.map (·.contiguous) = some false ∧ w.spec.size.bytes = .ok 1073741824 ∧
      w.metadata.finalizers = some [Marks.provisionerFinalizer]) ∧
    (∃ v s' w, Run Sample.thinRequest Sample.pooled (.done (.created (.ok v))) s' ∧
      s'.volumes.get? "pvc-1" = some w ∧ w.spec.lvmType = .thin ∧ w.spec.groupName = "vg-2" ∧
      w.spec.thin.map (·.poolName) = some "pool" ∧ w.spec.thick = none ∧ w.spec.size.bytes = .ok 1073741824 ∧
      w.metadata.finalizers = some [Marks.provisionerFinalizer]) ∧
    (∃ e s', Run Sample.request Sample.provisionable (.done (.created (.error e))) s' ∧
      s'.volumes.get? "pvc-1" = none ∧
      s'.journal = [.createVolume "pvc-1", .replaceVolume "pvc-1", .deleteVolume "pvc-1"]) ∧
    ∀ u s', Run { Sample.request with name := "" } Sample.provisionable u s' → ¬ u.AsksWrite := by
  intro Run
  obtain ⟨hends, -⟩ := created_or_nothing {} (fun _ => False) (r := Sample.request) (by decide)
    (Sample.volumes_provisionable _)
  obtain ⟨hthin, -⟩ := created_or_nothing {} (fun _ => False) (r := Sample.thinRequest) (by decide)
    (Sample.volumes_pooled _)
  refine ⟨?_, ?_, ?_, fun u s' hrun => ?_⟩
  · obtain ⟨v, hv⟩ := Sample.firstRun_succeeds
    have hrun : Run Sample.request Sample.provisionable (.done Sample.firstRun.1) Sample.firstRun.2.cluster := by
      rw [Sample.firstRun]
      exact Simulation.course_run _ _ _ _ (s := { cluster := Sample.provisionable }) rfl 0
    rw [hv] at hrun
    obtain ⟨-, p, d, w, hp, hd, hw, hasked⟩ := hends _ _ hrun
    obtain rfl := Except.ok.inj (hp.symm.trans Sample.ofMap_request)
    obtain rfl := Except.ok.inj (hd.symm.trans Sample.place_request)
    exact ⟨v, _, w, hrun, hw, hasked.lvmType, hasked.groupName, Option.map_eq_none_iff.1 hasked.pool, hasked.contiguous,
      hasked.size, hasked.finalizers⟩
  · obtain ⟨v, hv⟩ := Sample.thinRun_succeeds
    have hrun : Run Sample.thinRequest Sample.pooled (.done Sample.thinRun.1) Sample.thinRun.2.cluster := by
      rw [Sample.thinRun]
      exact Simulation.course_run _ _ _ _ (s := { cluster := Sample.pooled }) rfl 0
    rw [hv] at hrun
    obtain ⟨-, p, d, w, hp, hd, hw, hasked⟩ := hthin _ _ hrun
    obtain rfl := Except.ok.inj (hp.symm.trans Sample.ofMap_thinRequest)
    obtain rfl := Except.ok.inj (hd.symm.trans Sample.place_thinRequest)
    exact ⟨v, _, w, hrun, hw, hasked.lvmType, hasked.groupName, hasked.pool, Option.map_eq_none_iff.1 hasked.contiguous,
      hasked.size, hasked.finalizers⟩
  · obtain ⟨e, he⟩ := Sample.cancelledRun_fails
    have hrun :
        Run Sample.request Sample.provisionable (.done Sample.cancelledRun.1) Sample.cancelledRun.2.cluster := by
      rw [Sample.cancelledRun]
      exact Simulation.course_run _ _ _ _ (s := { cluster := Sample.provisionable, cancelled := true }) rfl 0
    rw [he] at hrun
    exact ⟨e, _, hrun, (hends _ _ hrun).2, Sample.cancelledRun_journal⟩
  · have hrefused := created_or_nothing {} (fun _ => False) (r := { Sample.request with name := "" }) (by decide)
      (Sample.volumes_provisionable _)
    exact (hrefused.2 (fun h => h.1 rfl) u s' hrun).2.1

end LocalVolumes
