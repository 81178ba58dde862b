import LocalVolumes.Proofs.Cluster.Volumes
import LocalVolumes.Proofs.Interference
import LocalVolumes.Provisioning

/-!
# LocalVolumes.Proofs.Provisioning — what requests for volumes keep to

Each step of a request keeps all volumes but the one of its name, and that one goes only in a release: when the request
is to delete it, or at the cleanup of a request to create it whose wait has failed.  A request to create a volume
succeeds only after it has seen the volume.
-/

namespace LocalVolumes

open Cluster Routine

/-- What a request relies on: versions advance. -/
def advancing : Rely where
  may := Advances
  refl := Advances.refl
  trans := Advances.trans

variable {s : Cluster} {n : String} {but : String → Prop}

/-! ### Routines -/

namespace Provisioning

variable {cfg : ProvisionerConfig} {α : Type} {guar : Routine α → Cluster → Cluster → Prop}

/-- A routine during which every volume stays but those of some names. -/
abbrev KeepsVolumes (but : String → Prop) {α : Type} (t : Routine α) (s : Cluster) : Prop :=
  t.Keeps Anchored advancing (fun _ => Retains but) noMatter s

theorem keepsVolumes_done (a : α) : KeepsVolumes but (.done a) s := fun _ _ _ => trivial

/-- A wait only looks at the volume, and it ends well only after a look at which the volume was there. -/
theorem keeps_await {inv P : Cluster → Prop} {R : Rely}
    {guar : Routine (Except Fault Nat) → Cluster → Cluster → Prop}
    (hrefl : ∀ u s, guar u s s)
    (hlook : ∀ u s r s', inv s → s.Serves (.getVolume n) r s' → inv s' ∧ guar u s s')
    (hseen : ∀ s v, s.volumes.get? n = some v → P s) (hmay : ∀ s s', R.may s s' → P s → P s')
    (requested : Nat) (operation : String) (deadline fuel attempts : Nat) :
    (await cfg n requested operation deadline fuel attempts).Keeps inv R guar
      (fun a s => (∃ k, a = .ok k) → P s) s := by
  have herror {s : Cluster} {e : Fault} :
      Keeps inv R guar (fun a s => (∃ k, a = .ok k) → P s) (.done (.error e)) s := by
    rintro s₁ - - ⟨k, hk⟩
    simp at hk
  induction fuel generalizing s attempts with
  | zero => exact herror
  | succ fuel ih =>
    refine .pause (fun s => hrefl _ s) fun cancelled => ?_
    cases cancelled with
    | true => exact herror
    | false =>
      refine .call fun s₁ r s₂ _ hi hs => ?_
      obtain ⟨hi₂, hg₂⟩ := hlook _ s₁ r s₂ hi hs
      refine ⟨hi₂, hg₂, ?_⟩
      cases r with
      | error e => exact herror
      | ok found =>
        dsimp only
        split
        · exact herror
        · next hl =>
          cases found with
          | none => simp [look] at hl
          | some v =>
            exact .record (fun s => hrefl _ s) fun s₃ hr _ _ => hmay _ _ hr (hseen _ v hs.stored)
        · refine .now (fun s => hrefl _ s) fun time => ?_
          split
          · exact herror
          · exact ih _

theorem keepsVolumes_await (name : String) (requested : Nat) (operation : String) (deadline fuel attempts : Nat) :
    KeepsVolumes (fun _ => False) (await cfg name requested operation deadline fuel attempts) s :=
  (keeps_await (P := fun _ => True) (fun _ s => .refl _ s) (fun _ _ _ _ hi hs => hi.getVolume hs)
    (fun _ _ _ => trivial) (fun _ _ _ _ => trivial) requested operation deadline fuel attempts).mono
    (fun _ _ _ h => h) fun _ _ _ _ => trivial

theorem keepsVolumes_waitForConvergence (name : String) (requested : Nat) (operation : String) :
    KeepsVolumes (fun _ => False) (waitForConvergence cfg name requested operation) s :=
  .now (fun s => .refl _ s) fun _ => keepsVolumes_await ..

theorem keepsVolumes_release (n : String) : KeepsVolumes (· = n) (release n) s := by
  have hdelete {s : Cluster} : KeepsVolumes (· = n) (Routine.call (.deleteVolume n)) s :=
    fun s₁ r s₂ _ hi hs => ⟨(hi.deleteVolume hs).1, (hi.deleteVolume hs).2, keepsVolumes_done _⟩
  refine .call fun s₁ r s₂ _ hi hs => ?_
  obtain ⟨hi₂, hr₂⟩ := hi.getVolume hs
  refine ⟨hi₂, hr₂.mono fun _ hfalse => hfalse.elim, ?_⟩
  cases r with
  | error e => exact keepsVolumes_done _
  | ok found =>
    cases found with
    | none => exact keepsVolumes_done _
    | some v =>
      have hkey : Resource.key v = n := hi₂.keyed n v hs.stored
      dsimp only
      split
      · next stripped hst =>
        obtain rfl := congrArg Prod.fst hst
        refine .call fun s₃ r s₄ _ hi₃ hs₃ => ?_
        obtain ⟨⟨hi₄, hr₄⟩, -⟩ := hi₃.replaceVolume (v := v.removeFinalizer.1) hkey hs₃
        refine ⟨hi₄, hr₄, ?_⟩
        cases r with
        | ok _ => exact hdelete
        | error e =>
          dsimp only
          split <;> exact keepsVolumes_done _
      · exact hdelete

/-- What a release does with a volume that it has found. -/
def releaseFound (n : String) (v : LogicalVolume) : Routine (Except Fault Unit) :=
  match v.removeFinalizer with
  | (stripped, true) => (Routine.call (.replaceVolume stripped)).bind fun
    | .error e => if e.isNotFound then .done (.ok ()) else .done (.error e)
    | .ok _ => Routine.call (.deleteVolume n)
  | (_, false) => Routine.call (.deleteVolume n)

theorem release_eq (n : String) :
    release n = (Routine.call (.getVolume n)).bind fun
      | .error e => .done (.error e)
      | .ok none => .done (.ok ())
      | .ok (some v) => releaseFound n v := rfl

/-- What a request to create a volume does after its wait has failed: the volume is released, then the failure is
answered. -/
def cleanup (r : CreateRequest) (e : Fault) : Routine (Except Fault CreatedVolume) :=
  (release r.name).bind fun _ => .done (.error e)

theorem settle_eq (r : CreateRequest) (d : Decision) :
    settle cfg r d = (waitForConvergence cfg r.name r.bytes "create_volume").bind fun
      | .ok _ => .done (.ok (createdVolume r d))
      | .error e => cleanup r e := rfl

theorem keepsVolumes_cleanup (r : CreateRequest) (e : Fault) : KeepsVolumes (· = r.name) (cleanup r e) s :=
  (keepsVolumes_release r.name).bind fun _ _ _ _ => keepsVolumes_done _

/-- What a request to create a volume does with the groups that it has read. -/
def createAmong (cfg : ProvisionerConfig) (r : CreateRequest) (p : VolumeParameters) :
    Except Fault (List VolumeGroup) → Routine (Except Fault CreatedVolume)
  | .error e => .done (.error e)
  | .ok inventory =>
    match place r p inventory with
    | .error cause => .done (.error cause.toFault)
    | .ok d => createAt cfg r p d

/-- What a request to create a volume does once the volume was asked for. -/
def settleIfAsked (cfg : ProvisionerConfig) (r : CreateRequest) (d : Decision) :
    Except Fault LogicalVolume → Routine (Except Fault CreatedVolume)
  | .ok _ => settle cfg r d
  | .error e => if e.isAlreadyExists then settle cfg r d else .done (.error e)

/-- A request to create a volume fails at once, or it has a name and parameters and reads the groups. -/
theorem create_cases (cfg : ProvisionerConfig) (r : CreateRequest) :
    (∃ e, create cfg r = .done (.error e)) ∨
    ∃ p, r.name ≠ "" ∧ VolumeParameters.ofMap r.parameters = .ok p ∧
      create cfg r = (Routine.call .listVolumeGroups).bind (createAmong cfg r p) := by
  unfold create
  split
  · exact .inl ⟨_, rfl⟩
  · next hname =>
    split
    · exact .inl ⟨_, rfl⟩
    · next p hp =>
      refine .inr ⟨p, hname, hp, ?_⟩
      exact congrArg (Routine.call .listVolumeGroups).bind (funext fun a => by cases a <;> rfl)

/-- Only a place among the groups leads on. -/
theorem createAmong_cases (cfg : ProvisionerConfig) (r : CreateRequest) (p : VolumeParameters)
    (a : Except Fault (List VolumeGroup)) :
    (∃ e, createAmong cfg r p a = .done (.error e)) ∨
    ∃ inventory d, a = .ok inventory ∧ place r p inventory = .ok d ∧ createAmong cfg r p a = createAt cfg r p d := by
  cases a with
  | error e => exact .inl ⟨e, rfl⟩
  | ok inventory =>
    simp only [createAmong]
    cases hd : place r p inventory with
    | error cause => exact .inl ⟨_, rfl⟩
    | ok d => exact .inr ⟨inventory, d, rfl, hd, rfl⟩

theorem createAt_eq (r : CreateRequest) (p : VolumeParameters) (d : Decision) :
    createAt cfg r p d = (Routine.call (.createVolume (LogicalVolume.request r.name (volumeSpec r p d)))).bind
      (settleIfAsked cfg r d) :=
  congrArg (Routine.call _).bind (funext fun a => by cases a <;> rfl)

/-- Only a failure ends the request without a wait. -/
theorem settleIfAsked_cases (cfg : ProvisionerConfig) (r : CreateRequest) (d : Decision)
    (a : Except Fault LogicalVolume) :
    settleIfAsked cfg r d a = settle cfg r d ∨ ∃ e, a = .error e ∧ settleIfAsked cfg r d a = .done (.error e) := by
  cases a with
  | ok _ => exact .inl rfl
  | error e =>
    by_cases hasked : e.isAlreadyExists
    · exact .inl (if_pos hasked)
    · exact .inr ⟨e, rfl, if_neg hasked⟩

/-- A request to create a volume: every step keeps all volumes but those of its cleanup. -/
theorem keeps_create (r : CreateRequest) {guar : Routine (Except Fault CreatedVolume) → Cluster → Cluster → Prop}
    (hall : ∀ u s s', RetainsAll s s' → guar u s s')
    (hclean : ∀ e u s s', Leads (cleanup r e) u → u.IsUnderWay → Retains (· = r.name) s s' → guar u s s') :
    (create cfg r).Keeps Anchored advancing guar noMatter s := by
  have hdone {s : Cluster} (a : Except Fault CreatedVolume) :
      Keeps Anchored advancing guar noMatter (.done a) s := fun _ _ _ => trivial
  have hsettle {s : Cluster} (d : Decision) : (settle cfg r d).Keeps Anchored advancing guar noMatter s := by
    rw [settle_eq]
    refine Keeps.bind ((keepsVolumes_waitForConvergence r.name r.bytes "create_volume").mono
      (fun u s s' h => hall _ s s' h) fun _ _ _ h => h) fun a s₁ _ _ => ?_
    cases a with
    | ok _ => exact hdone _
    | error e =>
      exact (keepsVolumes_cleanup r e).leads.mono
        (fun u s s' h => hclean e u s s' h.2.1 h.2.2 h.1) fun _ _ _ h => h
  obtain ⟨e, he⟩ | ⟨p, -, -, hc⟩ := create_cases cfg r
  · exact he ▸ hdone _
  · rw [hc]
    refine .call fun s₁ a s₂ _ hi hs => ?_
    obtain ⟨hi₂, hr₂⟩ := hi.listVolumeGroups hs
    refine ⟨hi₂, hall _ _ _ hr₂, ?_⟩
    obtain ⟨e, he⟩ | ⟨inventory, d, -, -, hc⟩ := createAmong_cases cfg r p a
    · exact he ▸ hdone _
    · rw [hc, createAt_eq]
      refine .call fun s₃ a s₄ _ hi₃ hs₃ => ?_
      obtain ⟨hi₄, hr₄⟩ := hi₃.createVolume hs₃
      refine ⟨hi₄, hall _ _ _ hr₄, ?_⟩
      obtain hc | ⟨e, -, he⟩ := settleIfAsked_cases cfg r d a
      · exact hc ▸ hsettle d
      · exact he ▸ hdone _

/-- A volume was stored under a name some time ago. -/
def Remembers (n : String) (v : LogicalVolume) (s : Cluster) : Prop :=
  ∃ s₀ : Cluster, s₀.Versioned ∧ s₀.volumes.get? n = some v ∧ s₀.Advances s

/-- What replaces a volume that is remembered, and is taken for current, has met the same volume. -/
theorem Remembers.eq_of_isCurrent {v w larger : LogicalVolume} (h : Remembers n v s)
    (hv : larger.metadata.resourceVersion = v.metadata.resourceVersion) (hw : s.volumes.get? n = some w)
    (hc : isCurrent w larger = true) : w = v := by
  obtain ⟨s₀, hver, hn, ha⟩ := h
  exact Renewed.eq_of_isCurrent ha.2 hver hn hv hw hc

theorem keepsVolumes_grow {r : ExpandRequest} {v : LogicalVolume} (hkey : Resource.key v = r.id)
    (hm : Remembers r.id v s) : KeepsVolumes (fun _ => False) (grow cfg r v) s := by
  refine .call fun s₁ a s₂ hr hi hs => ?_
  obtain ⟨s₀, hver, hn, ha⟩ := hm
  have hm₁ : Remembers r.id v s₁ := ⟨s₀, hver, hn, ha.trans hr⟩
  obtain ⟨⟨hi₂, -⟩, hall⟩ := hi.replaceVolume
    (v := { v with spec := { v.spec with size := ⟨toString r.bytes⟩ } }) hkey hs
  refine ⟨hi₂, hall fun w hw hc => ?_, ?_⟩
  · rw [hm₁.eq_of_isCurrent rfl hw hc]
  · cases a with
    | error e => exact keepsVolumes_done _
    | ok _ =>
      refine Keeps.bind (keepsVolumes_waitForConvergence r.id r.bytes "expand_volume") fun a s₁ _ _ => ?_
      cases a <;> exact keepsVolumes_done _

theorem keeps_checkRoom (v : LogicalVolume) (growth : Nat) {s₀ : Cluster} (h : s₀.Advances s) :
    (checkRoom v growth).Keeps Anchored advancing (fun _ => RetainsAll) (fun _ => s₀.Advances) s := by
  unfold checkRoom
  split
  · exact fun s₁ hr _ => h.trans hr
  · refine .call fun s₁ a s₂ hr hi hs => ?_
    obtain ⟨hi₂, hr₂⟩ := hi.getVolumeGroup hs
    have ha₂ : s₀.Advances s₂ := (h.trans hr).trans hr₂.1
    refine ⟨hi₂, hr₂, ?_⟩
    cases a <;> exact fun s₃ hr₃ _ => ha₂.trans hr₃

/-- A request to grow a volume keeps all volumes. -/
theorem keepsVolumes_expand (r : ExpandRequest) : KeepsVolumes (fun _ => False) (expand cfg r) s := by
  unfold expand
  split
  · exact keepsVolumes_done _
  · refine .call fun s₁ a s₂ _ hi hs => ?_
    obtain ⟨hi₂, hr₂⟩ := hi.getVolume hs
    refine ⟨hi₂, hr₂, ?_⟩
    split
    · exact keepsVolumes_done _
    · exact keepsVolumes_done _
    · next v =>
      have hget := hs.stored
      have hkey : Resource.key v = r.id := hi₂.keyed r.id v hget
      split
      · exact keepsVolumes_done _
      · split
        · exact keepsVolumes_done _
        · refine Keeps.bind (keeps_checkRoom v _ (.refl s₂)) fun a s₃ _ ha => ?_
          cases a with
          | error e => exact keepsVolumes_done _
          | ok u => exact keepsVolumes_grow hkey ⟨s₂, hi₂.versioned, hget, ha⟩

/-- What follows work that is measured: it is counted with the time since its start. -/
def counted {β : Type} (operation : String) (start : Nat) (a : Except Fault β) : Routine (Except Fault β) :=
  Routine.now.bind fun finish =>
    (Routine.record (.provisioning operation (match a with
      | .ok _ => true
      | .error _ => false) (finish - start))).bind fun _ => .done a

theorem measured_eq {β : Type} (operation : String) (work : Routine (Except Fault β)) :
    measured operation work = Routine.now.bind fun start => work.bind (counted operation start) := rfl

/-- Work that is measured keeps to what the work itself keeps to. -/
theorem keeps_measured {β : Type} {operation : String} {work : Routine (Except Fault β)}
    {guar : Routine (Except Fault β) → Cluster → Cluster → Prop} (hall : ∀ u s s', RetainsAll s s' → guar u s s')
    (h : ∀ start s,
      work.Keeps Anchored advancing (fun u => guar (u.bind (counted operation start))) noMatter s) :
    (measured operation work).Keeps Anchored advancing guar noMatter s := by
  rw [measured_eq]
  refine .now (fun s => hall _ s s (.refl _ s)) fun start => ?_
  refine Keeps.bind (h start s) fun a s₁ _ _ => ?_
  refine .now (fun s => hall _ s s (.refl _ s)) fun finish => ?_
  exact .record (fun s => hall _ s s (.refl _ s)) fun _ _ _ => trivial

end Provisioning

/-! ### Requests side by side -/

open Provisioning

/-- A request of a workload. -/
inductive Job
  | create (r : CreateRequest)
  | expand (r : ExpandRequest)
  | delete (id : String)

/-- The answer to a request. -/
inductive Job.Answer
  | created (a : Except Fault CreatedVolume)
  | expanded (a : Except Fault ExpandedVolume)
  | deleted (a : Except Fault Unit)

namespace Job

/-- The work on a request. -/
def work (cfg : ProvisionerConfig) : Job → Routine Answer
  | .create r => (createVolume cfg r).bind fun a => .done (.created a)
  | .expand r => (expandVolume cfg r).bind fun a => .done (.expanded a)
  | .delete id => (deleteVolume id).bind fun a => .done (.deleted a)

/-- What follows the work on a request to create a volume. -/
def answered (start : Nat) (a : Except Fault CreatedVolume) : Routine Answer :=
  (counted "create_volume" start a).bind fun a => .done (.created a)

/-- What is left of a request is about to take the volume of a name away: it was asked to, or it was asked to create
the volume, has waited for it in vain, and is at its cleanup. -/
def Releases (n : String) : Job → Routine Answer → Prop
  | .create r, t => r.name = n ∧
      ∃ e u start, Routine.Leads (cleanup r e) u ∧ u.IsUnderWay ∧ t = u.bind (answered start)
  | .expand _, _ => False
  | .delete id, t => id = n ∧ t.IsUnderWay

/-- What every step of a request keeps to: it takes a volume away only where it is about to. -/
def Blameless (j : Job) (t : Routine Answer) (s s' : Cluster) : Prop :=
  s.Advances s' ∧ ∀ n, Stored n s → Stored n s' ∨ j.Releases n t

theorem Blameless.of_retainsAll {j : Job} {t : Routine Answer} (h : RetainsAll s s') : j.Blameless t s s' :=
  ⟨h.1, fun n hn => .inl (h.2 n id hn)⟩

theorem keeps_work (cfg : ProvisionerConfig) (j : Job) (s : Cluster) :
    (j.work cfg).Keeps Anchored advancing j.Blameless noMatter s := by
  cases j with
  | create r =>
    refine Routine.Keeps.bind (q := noMatter) ?_ fun a s₁ _ _ => fun _ _ _ => trivial
    refine keeps_measured (fun u s s' h => .of_retainsAll h) fun start s => ?_
    refine keeps_create r (fun u s s' h => .of_retainsAll h) fun e u s s' hl hu hr => ⟨hr.1, fun n hn => ?_⟩
    by_cases hnr : n = r.name
    · exact .inr ⟨hnr.symm, e, u, start, hl, hu, Routine.bind_assoc ..⟩
    · exact .inl (hr.2 n hnr hn)
  | expand r =>
    refine Routine.Keeps.bind (q := noMatter) ?_ fun a s₁ _ _ => fun _ _ _ => trivial
    refine keeps_measured (fun u s s' h => .of_retainsAll h) fun start s => ?_
    exact (keepsVolumes_expand r).mono (fun u s s' h => .of_retainsAll h) fun _ _ _ h => h
  | delete id =>
    refine Routine.Keeps.bind (q := noMatter) ?_ fun a s₁ _ _ => fun _ _ _ => trivial
    refine keeps_measured (fun u s s' h => .of_retainsAll h) fun start s => ?_
    split
    · exact fun _ _ _ => trivial
    · refine (keepsVolumes_release id).leads.mono (fun u s s' h => ⟨h.1.1, fun n hn => ?_⟩) fun _ _ _ h => h
      obtain ⟨hr, -, e, next, rfl⟩ := h
      by_cases hnr : n = id
      · exact .inr ⟨hnr.symm, e, _, rfl⟩
      · exact .inl (hr.2 n hnr hn)

end Job

/-! ### What a request that succeeds has seen -/

/-- Others keep the volume of a name. -/
def keeping (n : String) : Rely where
  may s s' := Stored n s → Stored n s'
  refl _ := id
  trans h h' := h' ∘ h

/-- A routine that, whenever its result is a success, has seen the volume of the name. -/
abbrev Sees (n : String) {α : Type} (ok : α → Prop) (t : Routine α) (s : Cluster) : Prop :=
  t.Keeps (fun _ => True) (keeping n) (fun _ _ _ => True) (fun a s => ok a → Stored n s) s

namespace Provisioning

variable {cfg : ProvisionerConfig} {β : Type}

theorem sees_error {e : Fault} : Sees n (fun a : Except Fault β => ∃ x, a = .ok x) (.done (.error e)) s :=
  fun _ _ _ ⟨_, h⟩ => by simp at h

/-- A wait ends well only after a look at the volume. -/
theorem sees_await (requested : Nat) (operation : String) (deadline fuel attempts : Nat) :
    Sees n (fun a => ∃ k, a = .ok k) (await cfg n requested operation deadline fuel attempts) s :=
  keeps_await (fun _ _ => trivial) (fun _ _ _ _ _ _ => ⟨trivial, trivial⟩) (fun _ v hv => ⟨v, hv⟩)
    (fun _ _ hr => hr) requested operation deadline fuel attempts

theorem sees_settle (r : CreateRequest) (d : Decision) :
    Sees r.name (fun a => ∃ v, a = .ok v) (settle cfg r d) s := by
  rw [settle_eq]
  refine Routine.Keeps.bind (q := fun a s => (∃ k, a = .ok k) → Stored r.name s) ?_ fun a s₁ _ hm => ?_
  · exact .now (fun _ => trivial) fun _ => sees_await ..
  · cases a with
    | ok k => exact fun s₂ hr _ _ => hr (hm ⟨k, rfl⟩)
    | error e =>
      exact Routine.Keeps.bind (q := noMatter)
        (.trivial _ (fun _ => trivial) (fun _ _ _ => trivial) fun _ _ => trivial) fun _ _ _ _ => sees_error

theorem sees_create (r : CreateRequest) : Sees r.name (fun a => ∃ v, a = .ok v) (create cfg r) s := by
  obtain ⟨e, he⟩ | ⟨p, -, -, hc⟩ := create_cases cfg r
  · exact he ▸ sees_error
  · rw [hc]
    refine .call fun s₁ a s₂ _ _ _ => ⟨trivial, trivial, ?_⟩
    obtain ⟨e, he⟩ | ⟨inventory, d, -, -, hc⟩ := createAmong_cases cfg r p a
    · exact he ▸ sees_error
    · rw [hc, createAt_eq]
      refine .call fun s₃ a s₄ _ _ _ => ⟨trivial, trivial, ?_⟩
      obtain hc | ⟨e, -, he⟩ := settleIfAsked_cases cfg r d a
      · exact hc ▸ sees_settle r d
      · exact he ▸ sees_error

end Provisioning

/-- **A request to create a volume that succeeds has seen it.** -/
theorem Job.sees_work (cfg : ProvisionerConfig) (r : CreateRequest) (s : Cluster) :
    Sees r.name (fun a => ∃ v, a = .created (.ok v)) ((Job.create r).work cfg) s := by
  refine Routine.Keeps.bind (q := fun a s => (∃ v, a = .ok v) → Stored r.name s) ?_ fun a s₁ _ hm => ?_
  · refine .now (fun _ => trivial) fun start => ?_
    refine Routine.Keeps.bind (sees_create r) fun a s₁ _ hm => ?_
    exact .now (fun _ => trivial) fun finish => .record (fun _ => trivial) fun s₂ hr _ hv => hr (hm hv)
  · rintro s₂ hr - ⟨v, hv⟩
    exact hr (hm ⟨v, by simpa using hv⟩)

end LocalVolumes
