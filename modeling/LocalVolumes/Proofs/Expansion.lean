import LocalVolumes.Proofs.Acceptance
import LocalVolumes.Proofs.Candidates
import LocalVolumes.Proofs.Refusal

/-!
# LocalVolumes.Proofs.Expansion — what a request to grow a volume writes

A request to grow a volume reads it, makes sure that its group has room if the volume is thick, puts the volume with
another size in its place, and waits.  Meanwhile the node of the volume reports on it.  Of whatever is written only the
size is the request's: all else is what was declared before, and the group had room for it.  Once the request has
succeeded, the volume is large enough for the same request to succeed at once.
-/

namespace LocalVolumes

open Cluster Provisioning
open Routine (noMatter)

variable {cfg : ProvisionerConfig} {r : ExpandRequest} {s s₀ s' t : Cluster} {v w : LogicalVolume}

/-- What reports keep is kept by a routine that only looks at a volume while nodes report. -/
theorem Routine.keeps_of_looksAt {α : Type} {name : String} {inv : Cluster → Prop}
    (hinv : ∀ s s', inv s → OnlyReports (fun _ => True) s s' → inv s') {t : Routine α}
    (h : t.AsksOnly (Effect.LooksAt name)) :
    t.Keeps inv (reporting fun _ => True) (fun _ _ _ => True) noMatter s := by
  induction t generalizing s with
  | done a => exact .done fun _ _ _ => trivial
  | ask e next ih =>
    intro s₁ a s₂ _ hi hs
    have hi₂ : inv s₂ := by
      cases e with
      | call c =>
        cases c with
        | getVolume n => exact hinv s₁ s₂ hi (Serves.onlyReports_getVolume trivial hs)
        | _ => exact h.1.elim
      | now => exact (hs : s₂ = s₁) ▸ hi
      | pause ms => exact (hs : s₂ = s₁) ▸ hi
      | record x => exact (hs : s₂ = s₁) ▸ hi
    exact ⟨hi₂, trivial, ih a (h.2 a)⟩

/-! ### The room that a group has -/

/-- A group is there and has so many bytes free: they are left of its size beside what is allocated. -/
def Cluster.HasFree (s : Cluster) (group : String) (bytes : Nat) : Prop :=
  ∃ g free, s.groups.get? group = some g ∧ Quantity.IsLeft g.size g.allocated free ∧ bytes ≤ free

/-- Why a group that was looked up has no room for a volume to grow: it is not there, what is left of its size cannot be
told, or too little is left. -/
inductive Provisioning.Shortage (group : String) (growth : Nat) : Option VolumeGroup → Fault → Prop
  | missing : Shortage group growth none (.resourceNotFound VolumeGroup.kind group)
  | unreadable {g : VolumeGroup} {cause : Quantity.Fault} : Quantity.Unreadable g.size g.allocated cause →
      Shortage group growth (some g) (.quantityParse cause.message)
  | full {g : VolumeGroup} {free : Nat} : Quantity.IsLeft g.size g.allocated free → free < growth →
      Shortage group growth (some g) (.insufficientCapacity growth free)

namespace Provisioning

variable {group : String} {growth : Nat} {found : Option VolumeGroup}

theorem hasRoom_eq_error_iff {e : Fault} : hasRoom group growth found = .error e ↔ Shortage group growth found e := by
  constructor
  · intro h
    cases found with
    | none => exact Except.error.inj h ▸ .missing
    | some g =>
      simp only [hasRoom] at h
      split at h
      · next cause hfree => exact Except.error.inj h ▸ .unreadable (VolumeGroup.freeBytes_eq_error_iff.1 hfree)
      · next free hfree =>
        split at h
        · next hlt => exact Except.error.inj h ▸ .full (VolumeGroup.freeBytes_eq_ok_iff.1 hfree) hlt
        · cases h
  · intro h
    cases h with
    | missing => rfl
    | unreadable hcause => simp only [hasRoom, VolumeGroup.freeBytes_eq_error_iff.2 hcause, Quantity.Fault.toFault]
    | full hfree hlt => simp only [hasRoom, VolumeGroup.freeBytes_eq_ok_iff.2 hfree, if_pos hlt]

theorem hasFree_of_hasRoom (h : hasRoom group growth (s.groups.get? group) = .ok ()) : s.HasFree group growth := by
  cases hg : s.groups.get? group with
  | none => simp [hasRoom, hg] at h
  | some g =>
    simp only [hasRoom, hg] at h
    split at h
    · cases h
    · next free hfree =>
      split at h
      · cases h
      · next hle => exact ⟨g, free, hg, VolumeGroup.freeBytes_eq_ok_iff.1 hfree, Nat.le_of_not_lt hle⟩

end Provisioning

/-! ### What is asked for -/

/-- The volume with another size. -/
def LogicalVolume.resized (v : LogicalVolume) (bytes : Nat) : LogicalVolume :=
  { v with spec := { v.spec with size := ⟨toString bytes⟩ } }

namespace Provisioning

/-- What is left of a request to grow a volume once it has seen the volume. -/
def growSeen (cfg : ProvisionerConfig) (r : ExpandRequest) (start : Nat) (v : LogicalVolume) :
    Routine (Except Fault ExpandedVolume) :=
  (expandFound cfg r v).bind (counted "expand_volume" start)

/-- The calls of a request to grow a volume that it has seen: it looks at the volume, it looks up its group if the
volume is thick, and it replaces the volume by the one with the size that is asked for. -/
def Wants (r : ExpandRequest) (v : LogicalVolume) : Effect → Prop
  | .call (.getVolume n) => n = r.id
  | .call (.getVolumeGroup group) => v.spec.lvmType = .thick ∧ group = v.spec.groupName
  | .call (.replaceVolume w) => w = v.resized r.bytes
  | .call _ => False
  | _ => True

theorem wants_of_looksAt {e : Effect} (h : e.LooksAt r.id) : Wants r v e := by
  cases e with
  | call c =>
    cases c with
    | getVolume n => exact h
    | _ => exact h.elim
  | now => trivial
  | pause ms => trivial
  | record x => trivial

theorem wants_checkRoom (growth : Nat) : (checkRoom v growth).AsksOnly (Wants r v) := by
  unfold checkRoom
  split
  · trivial
  · next hthick => exact .perform_bind ⟨hthick, rfl⟩ fun g => by cases g <;> trivial

theorem wants_grow : (grow cfg r v).AsksOnly (Wants r v) := by
  refine .perform_bind rfl fun a => ?_
  cases a with
  | error e => trivial
  | ok _ =>
    exact ((looksAt_waitForConvergence ..).mono fun _ => wants_of_looksAt).bind fun a => by cases a <;> trivial

/-- **Whatever the answers, these are all of its calls.** -/
theorem wants_growSeen (start : Nat) : (growSeen cfg r start v).AsksOnly (Wants r v) := by
  have hcounted (a : Except Fault ExpandedVolume) : (counted "expand_volume" start a).AsksOnly (Wants r v) :=
    (looksAt_counted r.id ..).mono fun _ => wants_of_looksAt
  refine .bind ?_ hcounted
  unfold expandFound
  split
  · trivial
  · split
    · trivial
    · refine (wants_checkRoom _).bind fun a => ?_
      cases a with
      | error e => trivial
      | ok u => exact wants_grow

end Provisioning

/-! ### What is written -/

/-- A volume that was seen has not been large enough, and its group has room for it if it is thick. -/
def MayGrow (cfg : ProvisionerConfig) (r : ExpandRequest) (v : LogicalVolume) (s : Cluster) : Prop :=
  ∃ actual, v.actualBytes = .ok actual ∧ isLargeEnough r.bytes actual cfg.resizeDelta = false ∧
    (v.spec.lvmType = .thick → s.HasFree v.spec.groupName (r.bytes - actual))

/-- The volume was replaced once, and nothing else differs but what is reported.  What is declared in it is what was
declared in the one that was seen, but for the size; one that was being deleted and had no finalizers is gone. -/
structure Grown (r : ExpandRequest) (v : LogicalVolume) (s t : Cluster) : Prop where
  journal : t.journal = s.journal ++ [.replaceVolume r.id]
  confined : Confined (· = r.id) (fun _ => True) s t
  volume : (t.volumes.get? r.id).map LogicalVolume.declared =
    if v.metadata.isBeingDeleted ∧ v.metadata.finalizerList = [] then none else some (v.resized r.bytes).declared

theorem Grown.reports (h : Grown r v s t) {u : Cluster} (hr : OnlyReports (fun _ => True) t u) : Grown r v s u :=
  ⟨hr.journal.trans h.journal, h.confined.trans hr.confined, (hr.declared r.id id).trans h.volume⟩

/-- The write. -/
theorem Grown.of_replaceVolume (hreports : OnlyReports (fun _ => True) s₀ s) (hv : s₀.volumes.get? r.id = some v)
    (hk : Resource.key v = r.id) {a : Except Fault LogicalVolume}
    (hs : s.Serves (.replaceVolume (v.resized r.bytes)) a s') :
    (∃ e, a = .error e) ∧ OnlyReports (fun _ => True) s₀ s' ∨ Grown r v s₀ s' := by
  have hkey : Resource.key (v.resized r.bytes) = r.id := hk
  rcases hs.replaceVolume with ⟨he, hrests⟩ | ⟨stored, resized, ps, hstored, -, -, rfl⟩
  · exact .inl ⟨he, hreports.trans (.of_rests hrests)⟩
  · rw [hkey] at hstored ⊢
    -- what is stored then is declared as the volume that was seen
    have hdeclared : stored.declared = v.declared := by
      have hd := hreports.declared r.id id
      rw [hstored, hv] at hd
      exact Option.some.inj hd
    have htime : stored.declared.metadata.deletionTimestamp = v.declared.metadata.deletionTimestamp := by
      rw [hdeclared]
    let made := stamped (keepVolumeStatus resized stored (v.resized r.bytes)) s.nextVersion v.metadata.deletionTimestamp
    have hmade : ((settled s.volumes r.id made).get? r.id).map LogicalVolume.declared =
        if v.metadata.isBeingDeleted ∧ v.metadata.finalizerList = [] then none
        else some (v.resized r.bytes).declared := by
      by_cases hgone : v.metadata.isBeingDeleted ∧ v.metadata.finalizerList = []
      · have herase : settled s.volumes r.id made = s.volumes.erase r.id := if_pos hgone
        rw [if_pos hgone, herase, NameMap.get?_erase, if_pos rfl, Option.map_none]
      · have hinsert : settled s.volumes r.id made = s.volumes.insert r.id made := if_neg hgone
        rw [if_neg hgone, hinsert, NameMap.get?_insert, if_pos rfl]
        rfl
    refine .inr ⟨congrArg (· ++ [_]) hreports.journal, ?_, ?_⟩
    · exact hreports.confined.trans (.of_volumes rfl rfl rfl fun k hk => get?_settled_ne _ hk)
    · exact (htime : stored.metadata.deletionTimestamp = v.metadata.deletionTimestamp) ▸ hmade

/-- What a request to grow a volume that it has seen may have come to. -/
def MayHaveGrown (cfg : ProvisionerConfig) (r : ExpandRequest) (v : LogicalVolume) (s t : Cluster) : Prop :=
  OnlyReports (fun _ => True) s t ∨ MayGrow cfg r v s ∧ Grown r v s t

theorem MayHaveGrown.reports (h : MayHaveGrown cfg r v s t) {u : Cluster} (hr : OnlyReports (fun _ => True) t u) :
    MayHaveGrown cfg r v s u := h.imp (·.trans hr) fun ⟨hmay, hgrown⟩ => ⟨hmay, hgrown.reports hr⟩

namespace Provisioning

/-- Work on a volume that was seen keeps to this while nodes report. -/
abbrev KeepsGrowth (cfg : ProvisionerConfig) (r : ExpandRequest) (v : LogicalVolume) (s₀ : Cluster) {α : Type}
    (post : α → Cluster → Prop) (work : Routine α) (s : Cluster) : Prop :=
  work.Keeps (MayHaveGrown cfg r v s₀) (reporting fun _ => True) (fun _ _ _ => True) post s

theorem keepsGrowth_of_looksAt {α : Type} {name : String} {work : Routine α} (h : work.AsksOnly (Effect.LooksAt name)) :
    KeepsGrowth cfg r v s₀ noMatter work s := Routine.keeps_of_looksAt (fun _ _ hi hr => hi.reports hr) h

theorem keepsGrowth_done {α : Type} (a : α) : KeepsGrowth cfg r v s₀ noMatter (.done a) s := .done fun _ _ _ => trivial

/-- The check writes nothing, and what passes it has room. -/
theorem keepsGrowth_checkRoom (h : OnlyReports (fun _ => True) s₀ s) (growth : Nat) :
    KeepsGrowth cfg r v s₀
      (fun a t => OnlyReports (fun _ => True) s₀ t ∧
        (a = .ok () → v.spec.lvmType = .thick → s₀.HasFree v.spec.groupName growth))
      (checkRoom v growth) s := by
  unfold checkRoom
  split
  · next hthin => exact .done fun t hr _ => ⟨h.trans hr, fun _ hthick => by simp [hthin] at hthick⟩
  · refine .call fun s₁ a s₂ hr _ hs => ?_
    have hs₁ := h.trans hr
    rcases hs.getVolumeGroup with ⟨⟨e, rfl⟩, hrests⟩ | ⟨rfl, rfl⟩
    · have hs₂ := hs₁.trans (.of_rests hrests)
      exact ⟨.inl hs₂, trivial, .done fun t hr _ => ⟨hs₂.trans hr, fun he => by cases he⟩⟩
    · refine ⟨.inl hs₁, trivial, .done fun t hr _ => ⟨hs₁.trans hr, fun hroom _ => ?_⟩⟩
      exact hasFree_of_hasRoom (hs₁.groups ▸ hroom)

theorem keepsGrowth_grow (h : OnlyReports (fun _ => True) s₀ s) (hmay : MayGrow cfg r v s₀)
    (hv : s₀.volumes.get? r.id = some v) (hk : Resource.key v = r.id) :
    KeepsGrowth cfg r v s₀ noMatter (grow cfg r v) s := by
  refine .call fun s₁ a s₂ hr _ hs => ?_
  rcases Grown.of_replaceVolume (h.trans hr) hv hk hs with ⟨⟨e, rfl⟩, hs₂⟩ | hgrown
  · exact ⟨.inl hs₂, trivial, keepsGrowth_done _⟩
  · refine ⟨.inr ⟨hmay, hgrown⟩, trivial, ?_⟩
    cases a with
    | error e => exact keepsGrowth_done _
    | ok _ =>
      refine .bind (keepsGrowth_of_looksAt (looksAt_waitForConvergence ..)) fun a _ _ _ => ?_
      cases a <;> exact keepsGrowth_done _

/-- **A volume that was seen is written once at most, and as it may be.** -/
theorem keepsGrowth_growSeen (hv : s.volumes.get? r.id = some v) (hk : Resource.key v = r.id) (start : Nat) :
    KeepsGrowth cfg r v s noMatter (growSeen cfg r start v) s := by
  refine .bind (q := noMatter) ?_ fun a _ _ _ => keepsGrowth_of_looksAt (looksAt_counted r.id ..)
  unfold expandFound
  split
  · exact keepsGrowth_done _
  next actual hactual =>
  split
  · exact keepsGrowth_done _
  next hsmall =>
  refine .bind (keepsGrowth_checkRoom (.refl _ s) _) fun a s₁ _ ⟨hs₁, hroom⟩ => ?_
  cases a with
  | error e => exact keepsGrowth_done _
  | ok u => exact keepsGrowth_grow hs₁ ⟨actual, hactual, by simpa using hsmall, hroom rfl⟩ hv hk

end Provisioning

/-! ### Runs among reports -/

namespace Routine

variable {α : Type}

/-- A run of one effect and what follows it has not begun, or goes on from the answer. -/
theorem Progress.cases_perform {R : Rely} {e : Effect} {f : e.Answer → Routine α} {u : Routine α}
    (h : Progress R ((perform e).bind f) s u t) :
    R.may s t ∨ ∃ s₁ a s₂, R.may s s₁ ∧ e.Served s₁ a s₂ ∧ Progress R (f a) s₂ u t :=
  (Progress.cases_ask h).imp_left (·.2)

theorem Progress.perform_bind {R : Rely} {e : Effect} {f : e.Answer → Routine α} {work : Routine α} {a : e.Answer}
    (h : Progress R work s ((perform e).bind f) s') (hs : e.Served s' a t) : Progress R work s (f a) t := .move h hs

theorem Progress.onlyReports (name : String) {work u : Routine α} (h : work.AsksOnly (Effect.LooksAt name))
    (hp : Progress (reporting fun _ => True) work s u t) : OnlyReports (fun _ => True) s t := by
  have hkeeps : work.Keeps (OnlyReports (fun _ => True) s) (reporting fun _ => True) (fun _ _ _ => True) noMatter s :=
    keeps_of_looksAt (fun _ _ hi hr => hi.trans hr) h
  exact (hkeeps.progress (.refl _ s) (fun _ _ hi hr => hi.trans hr) hp).1

end Routine

theorem MayHaveGrown.after (h : MayHaveGrown cfg r v s' t) (hr : OnlyReports (fun _ => True) s s') :
    MayHaveGrown cfg r v s t := by
  refine h.imp hr.trans fun ⟨⟨actual, hactual, hsmall, hroom⟩, hgrown⟩ => ⟨⟨actual, hactual, hsmall, ?_⟩, ?_⟩
  · unfold HasFree at hroom ⊢
    rwa [← hr.groups]
  · exact ⟨hgrown.journal.trans (congrArg (· ++ _) hr.journal), hr.confined.trans hgrown.confined, hgrown.volume⟩

namespace Provisioning

/-- What a request to grow a volume does with the answer to its look. -/
def growLooked (cfg : ProvisionerConfig) (r : ExpandRequest) (start : Nat) :
    Except Fault (Option LogicalVolume) → Routine (Except Fault ExpandedVolume)
  | .error e => counted "expand_volume" start (.error e)
  | .ok none => counted "expand_volume" start (.error (.resourceNotFound LogicalVolume.kind r.id))
  | .ok (some v) => growSeen cfg r start v

theorem expandVolume_eq (hid : r.id ≠ "") :
    expandVolume cfg r = Routine.now.bind fun start =>
      (Routine.call (.getVolume r.id)).bind (growLooked cfg r start) := by
  rw [expandVolume, measured_eq, expand_eq hid]
  simp only [Routine.bind_assoc]
  refine congrArg Routine.now.bind (funext fun start => congrArg (Routine.call _).bind (funext fun a => ?_))
  cases a with
  | error e => rfl
  | ok found => cases found <;> rfl

/-- A run of a request to grow a volume has written nothing, or it has seen the volume before. -/
theorem mayHaveGrown_of_progress {u : Routine (Except Fault ExpandedVolume)} (hk : Keyed s.volumes)
    (h : (expandVolume cfg r).Progress (reporting fun _ => True) s u t) :
    OnlyReports (fun _ => True) s t ∨
      ∃ start v s₁, (expandVolume cfg r).Progress (reporting fun _ => True) s (growSeen cfg r start v) s₁ ∧
        s₁.volumes.get? r.id = some v ∧ (growSeen cfg r start v).Progress (reporting fun _ => True) s₁ u t ∧
        MayHaveGrown cfg r v s t := by
  by_cases hid : r.id = ""
  · rw [expandVolume, measured_eq, expand, if_pos hid] at h
    refine .inl (h.onlyReports r.id ?_)
    exact .perform_bind (e := .now) trivial fun start => looksAt_counted r.id ..
  rw [expandVolume_eq hid] at h ⊢
  rcases h.cases_perform with hr | ⟨s₁, start, s₂, hr₁, rfl, h⟩
  · exact .inl hr
  rcases h.cases_perform with hr | ⟨s₃, a, s₄, hr₃, hs, h⟩
  · exact .inl (OnlyReports.trans hr₁ hr)
  have hlooked : (Routine.now.bind fun start => (Routine.call (.getVolume r.id)).bind (growLooked cfg r start)).Progress
      (reporting fun _ => True) s (growLooked cfg r start a) s₄ := by
    have hstarted := (Routine.Progress.refl.disturb hr₁).perform_bind
      (f := fun start => (Routine.call (.getVolume r.id)).bind (growLooked cfg r start)) (a := start) rfl
    exact (hstarted.disturb hr₃).perform_bind hs
  have hseen : OnlyReports (fun _ => True) s s₄ :=
    (OnlyReports.trans hr₁ hr₃).trans (Serves.onlyReports_getVolume trivial hs)
  cases a with
  | error e =>
    have hquiet : (growLooked cfg r start (.error e)).AsksOnly (Effect.LooksAt r.id) := looksAt_counted r.id ..
    exact .inl (hseen.trans (h.onlyReports r.id hquiet))
  | ok found =>
    cases found with
    | none =>
      have hquiet : (growLooked cfg r start (.ok none)).AsksOnly (Effect.LooksAt r.id) := looksAt_counted r.id ..
      exact .inl (hseen.trans (h.onlyReports r.id hquiet))
    | some v =>
      have hv : s₄.volumes.get? r.id = some v := Serves.get?_of_getVolume hs
      have hkey : Resource.key v = r.id := by
        obtain ⟨w, hw, hdeclared⟩ := hseen.exists_declared hv
        have hkeys : Resource.key w.declared = Resource.key v.declared := by rw [hdeclared]
        exact hkeys.symm.trans (hk r.id w hw)
      have hgrowth := ((keepsGrowth_growSeen hv hkey start).progress (.inl (.refl _ s₄))
        (fun _ _ hi hr => hi.reports hr) h).1
      exact .inr ⟨start, v, s₄, hlooked, hv, h, hgrowth.after hseen⟩

end Provisioning

/-! ### What is answered -/

/-- What a routine comes to, whatever becomes of the cluster during its pauses. -/
def Routine.Regardless {α : Type} (post : α → Cluster → Prop) : Routine α → Cluster → Prop
  | .done a, s => post a s
  | .ask (.call c) next, s => (next (s.answer c).1).Regardless post (s.answer c).2
  | .ask .now next, s => ∀ time, (next time).Regardless post s
  | .ask (.pause _) next, _ => ∀ cancelled s', (next cancelled).Regardless post s'
  | .ask (.record _) next, s => (next ()).Regardless post s

namespace Routine.Regardless

variable {α β : Type} {post : α → Cluster → Prop}

theorem of_forall (t : Routine α) (h : ∀ a s, post a s) : t.Regardless post s := by
  induction t generalizing s with
  | done a => exact h a s
  | ask e next ih =>
    cases e with
    | call c => exact ih _
    | now => exact fun time => ih time
    | pause ms => exact fun cancelled s' => ih cancelled
    | record x => exact ih _

theorem bind {t : Routine β} {f : β → Routine α} {q : β → Cluster → Prop} (h : t.Regardless q s)
    (hf : ∀ b s', q b s' → (f b).Regardless post s') : (t.bind f).Regardless post s := by
  induction t generalizing s with
  | done b => exact hf b s h
  | ask e next ih =>
    cases e with
    | call c => exact ih _ h
    | now => exact fun time => ih time (h time)
    | pause ms => exact fun cancelled s' => ih cancelled (h cancelled s')
    | record x => exact ih _ h

theorem call_bind {c : Call} {f : c.Result → Routine α}
    (h : ∀ a s', s.Serves c a s' → (f a).Regardless post s') : ((Routine.call c).bind f).Regardless post s :=
  h _ _ (.inl rfl)

theorem now_bind {f : Nat → Routine α} (h : ∀ time, (f time).Regardless post s) :
    (Routine.now.bind f).Regardless post s := h

theorem pause_bind {ms : Nat} {f : Bool → Routine α} (h : ∀ cancelled s', (f cancelled).Regardless post s') :
    ((Routine.pause ms).bind f).Regardless post s := h

/-- A simulated run, whatever is planned for its pauses. -/
theorem run {t : Routine α} (signal : StopSignal) (events : List (Nat × Happening)) (sim : Simulation) (k : Nat)
    (h : t.Regardless post sim.cluster) :
    post (Simulation.run signal events t sim k).1 (Simulation.run signal events t sim k).2.cluster := by
  induction t generalizing sim k with
  | done a => exact h
  | ask e next ih =>
    cases e with
    | call c => exact ih _ { sim with cluster := (sim.cluster.answer c).2 } k h
    | now => exact ih _ sim k (h _)
    | record x => exact ih _ { sim with metrics := sim.metrics.record x } k h
    | pause ms =>
      simp only [Simulation.run]
      split
      · exact ih _ sim k (h _ _)
      · exact ih _ (sim.sleep events (k + 1) ms) (k + 1) (h _ _)

end Routine.Regardless

namespace Provisioning

/-- The volume that is stored under a name is large enough. -/
def Suffices (name : String) (bytes delta : Nat) (t : Cluster) : Prop :=
  ∃ v actual, t.volumes.get? name = some v ∧ v.actualBytes = .ok actual ∧ isLargeEnough bytes actual delta = true

/-- A volume that has converged is large enough. -/
theorem suffices_of_look {name : String} {requested delta : Nat} {found : Option LogicalVolume}
    (hfound : s.volumes.get? name = found) (h : look name requested delta found = .converged) :
    Suffices name requested delta s := by
  unfold look at h
  split at h
  · cases h
  next v =>
  split at h
  · cases h
  · split at h
    · cases h
    · next actual hactual =>
      split at h
      · next hequal => exact ⟨v, actual, hfound, hactual, by rw [isLargeEnough, hequal, Bool.or_true]⟩
      · cases h
  · cases h

theorem suffices_await (name : String) (requested : Nat) (operation : String) (deadline fuel attempts : Nat) :
    (await cfg name requested operation deadline fuel attempts).Regardless
      (fun a t => ∀ k, a = .ok k → Suffices name requested cfg.resizeDelta t) s := by
  have herror {s : Cluster} (e : Fault) : Routine.Regardless
      (fun (a : Except Fault Nat) t => ∀ k, a = .ok k → Suffices name requested cfg.resizeDelta t)
      (.done (.error e)) s := by
    rintro k ⟨⟩
  induction fuel generalizing s attempts with
  | zero => exact herror _
  | succ fuel ih =>
    rw [await_succ]
    refine .pause_bind fun cancelled s₁ => ?_
    cases cancelled with
    | true => exact herror _
    | false =>
      refine .call_bind fun a s₂ hs => ?_
      cases a with
      | error e => exact herror e
      | ok found =>
        simp only [judged]
        split
        · exact herror _
        · next hlook => exact fun _ _ => suffices_of_look hs.get?_of_getVolume hlook
        · refine .now_bind fun time => ?_
          split
          · exact herror _
          · exact ih _

/-- What a request to grow a volume answers, and why another one may answer it as well. -/
abbrev Satisfies (cfg : ProvisionerConfig) (r : ExpandRequest) (a : Except Fault ExpandedVolume) (t : Cluster) : Prop :=
  ∀ b, a = .ok b → r.id ≠ "" ∧ b.nodeExpansionRequired = !r.block ∧ Suffices r.id r.bytes cfg.resizeDelta t

theorem satisfies_error (e : Fault) : Satisfies cfg r (.error e) t := by
  rintro b ⟨⟩

theorem satisfies_grow (hid : r.id ≠ "") : (grow cfg r v).Regardless (Satisfies cfg r) s := by
  refine .call_bind fun a s₁ _ => ?_
  cases a with
  | error e => exact satisfies_error e
  | ok _ =>
    refine .bind (fun start => suffices_await r.id r.bytes "expand_volume" _ _ _) fun a t ha => ?_
    cases a with
    | error e => exact satisfies_error e
    | ok k =>
      rintro b ⟨⟩
      exact ⟨hid, rfl, ha k rfl⟩

theorem satisfies_expand : (expand cfg r).Regardless (Satisfies cfg r) s := by
  by_cases hid : r.id = ""
  · rw [expand, if_pos hid]
    exact satisfies_error _
  rw [expand_eq hid]
  refine .call_bind fun a s₁ hs => ?_
  cases a with
  | error e => exact satisfies_error e
  | ok found =>
    cases found with
    | none => exact satisfies_error _
    | some v =>
      dsimp only
      unfold expandFound
      split
      · exact satisfies_error _
      next actual hactual =>
      split
      · next hlarge =>
        rintro b ⟨⟩
        exact ⟨hid, rfl, v, actual, hs.get?_of_getVolume, hactual, hlarge⟩
      · refine .bind (q := fun _ _ => True) (.of_forall _ fun _ _ => trivial) fun a t _ => ?_
        cases a with
        | error e => exact satisfies_error e
        | ok u => exact satisfies_grow hid

theorem checkRoom_of_thick (h : v.spec.lvmType = .thick) (growth : Nat) :
    checkRoom v growth = (Routine.call (.getVolumeGroup v.spec.groupName)).bind fun
      | .error e => .done (.error e)
      | .ok g => .done (hasRoom v.spec.groupName growth g) := by
  rw [checkRoom, h]
  rfl

section Runs

variable (signal : StopSignal) (events : List (Nat × Happening)) (sim : Simulation) (k : Nat)

/-- A group without room is told of, and nothing is written. -/
theorem run_expandVolume_of_shortage {actual : Nat} {e : Fault} (hid : r.id ≠ "")
    (hlook : (sim.cluster.answer (.getVolume r.id)).1 = .ok (some v)) (hactual : v.actualBytes = .ok actual)
    (hsmall : isLargeEnough r.bytes actual cfg.resizeDelta = false) (hthick : v.spec.lvmType = .thick)
    (hshort : Shortage v.spec.groupName (r.bytes - actual) (sim.cluster.groups.get? v.spec.groupName) e) :
    let run := Simulation.run signal events (expandVolume cfg r) sim k
    run.1 = .error e ∧ run.2.cluster = (sim.cluster.answer (.getVolume r.id)).2 := by
  have hgroups := (serves_answer sim.cluster (.getVolume r.id)).frame.groups
  have hexpand : Simulation.run signal events (expand cfg r) sim k =
      (.error e, { sim with cluster := (sim.cluster.answer (.getVolume r.id)).2 }) := by
    rw [expand_eq hid, Simulation.run_call_bind, hlook]
    generalize (sim.cluster.answer (.getVolume r.id)).2 = looked at hgroups
    have hroom : hasRoom v.spec.groupName (r.bytes - actual) (looked.groups.get? v.spec.groupName) = .error e := by
      rw [hgroups]
      exact hasRoom_eq_error_iff.2 hshort
    simp only [expandFound, hactual, hsmall, Bool.false_eq_true, if_false, checkRoom_of_thick hthick,
      Routine.bind_assoc]
    rw [Simulation.run_call_bind]
    simp only [answer, hroom, Routine.bind_done, Simulation.run_done]
  obtain ⟨hresult, hcluster⟩ := run_measured signal events sim k "expand_volume" (expand cfg r)
  rw [hexpand] at hresult hcluster
  exact ⟨hresult, hcluster⟩

/-- A volume that is large enough is taken as it is. -/
theorem run_expandVolume_of_isLargeEnough {actual : Nat} (hid : r.id ≠ "")
    (hlook : (sim.cluster.answer (.getVolume r.id)).1 = .ok (some v)) (hactual : v.actualBytes = .ok actual)
    (hlarge : isLargeEnough r.bytes actual cfg.resizeDelta = true) :
    let run := Simulation.run signal events (expandVolume cfg r) sim k
    run.1 = .ok ⟨actual, !r.block⟩ ∧ run.2.cluster = (sim.cluster.answer (.getVolume r.id)).2 := by
  obtain ⟨hresult, hcluster⟩ := run_measured signal events sim k "expand_volume" (expand cfg r)
  rw [run_expand_of_isLargeEnough hid hlook hactual hlarge] at hresult hcluster
  exact ⟨hresult, hcluster⟩

theorem satisfies_run :
    let run := Simulation.run signal events (expandVolume cfg r) sim k
    Satisfies cfg r run.1 run.2.cluster := by
  obtain ⟨hresult, hcluster⟩ := run_measured signal events sim k "expand_volume" (expand cfg r)
  intro run
  rw [show run.1 = _ from hresult, show run.2.cluster = _ from hcluster]
  exact (satisfies_expand (s := sim.cluster)).run signal events sim k

end Runs

end Provisioning

/-- **A request to grow a volume writes once at most, and only a size.**  Once it has seen the volume, it calls for
nothing but looks at it, at its group if it is thick, and the volume with the size that is asked for.  At any point of a
run during which nodes report, and whichever calls fail, either nothing was written, or the volume was replaced once:
the one that was seen was not large enough and its group had room for it if it is thick; what is declared in it has
changed in the size only; and no other object was touched.  A group without room is told of, and nothing is written.
And after a request that has succeeded another one succeeds in the same way and writes nothing, if it sees the volume
with the same status. -/
theorem growth_is_written_once (cfg : ProvisionerConfig) (r : ExpandRequest) (hs : s.Arises) :
    (∀ start v, (growSeen cfg r start v).AsksOnly (Wants r v)) ∧
    (∀ u t, (expandVolume cfg r).Progress (reporting fun _ => True) s u t →
      OnlyReports (fun _ => True) s t ∨
        ∃ start v s₁, (expandVolume cfg r).Progress (reporting fun _ => True) s (growSeen cfg r start v) s₁ ∧
          s₁.volumes.get? r.id = some v ∧ (growSeen cfg r start v).Progress (reporting fun _ => True) s₁ u t ∧
          MayGrow cfg r v s ∧ Grown r v s t) ∧
    ∀ signal events sim k, sim.cluster = s →
      let run := Simulation.run signal events (expandVolume cfg r) sim k
      (∀ v actual e, r.id ≠ "" → (s.answer (.getVolume r.id)).1 = .ok (some v) → v.actualBytes = .ok actual →
        isLargeEnough r.bytes actual cfg.resizeDelta = false → v.spec.lvmType = .thick →
        Shortage v.spec.groupName (r.bytes - actual) (s.groups.get? v.spec.groupName) e →
        run.1 = .error e ∧ OnlyReports (fun _ => True) s run.2.cluster) ∧
      ∀ a, run.1 = .ok a → ∃ v, run.2.cluster.volumes.get? r.id = some v ∧
        ∀ signal' events' sim' k' w, (sim'.cluster.answer (.getVolume r.id)).1 = .ok (some w) → w.status = v.status →
          let again := Simulation.run signal' events' (expandVolume cfg r) sim' k'
          ∃ a', again.1 = .ok a' ∧ a'.nodeExpansionRequired = a.nodeExpansionRequired ∧
            OnlyReports (fun _ => True) sim'.cluster again.2.cluster := by
  have hlooked (s : Cluster) : OnlyReports (fun _ => True) s (s.answer (.getVolume r.id)).2 :=
    Serves.onlyReports_getVolume trivial (serves_answer s _)
  refine ⟨fun start v => wants_growSeen start, fun u t h => ?_, ?_⟩
  · rcases mayHaveGrown_of_progress hs.tidy.volumes h with hr | ⟨start, v, s₁, hseen, hv, hrest, hr | ⟨hmay, hgrown⟩⟩
    · exact .inl hr
    · exact .inl hr
    · exact .inr ⟨start, v, s₁, hseen, hv, hrest, hmay, hgrown⟩
  · rintro signal events sim k rfl
    refine ⟨fun v actual e hid hlook hactual hsmall hthick hshort => ?_, fun a ha => ?_⟩
    · obtain ⟨hresult, hcluster⟩ :=
        run_expandVolume_of_shortage signal events sim k hid hlook hactual hsmall hthick hshort
      exact ⟨hresult, hcluster ▸ hlooked _⟩
    · obtain ⟨hid, hnode, v, actual, hv, hactual, hlarge⟩ := satisfies_run signal events sim k a ha
      refine ⟨v, hv, fun signal' events' sim' k' w hlook hstatus => ?_⟩
      have hactual' : w.actualBytes = .ok actual := by
        rw [← hactual, LogicalVolume.actualBytes, hstatus]
        rfl
      obtain ⟨hresult, hcluster⟩ := run_expandVolume_of_isLargeEnough signal' events' sim' k' hid hlook hactual' hlarge
      exact ⟨_, hresult, hnode.symm, hcluster ▸ hlooked _⟩

namespace Sample

/-- The node reports on the volume after the first pause. -/
def enlargement : List (Nat × Happening) :=
  [(1, .intervene (.reportVolume "pvc-1" ⟨some .created, none, some ⟨"2Gi"⟩⟩))]

/-- The volume as it is stored in the cluster. -/
def stockedVolume : LogicalVolume :=
  { smallVolume with
    metadata := { smallVolume.metadata with resourceVersion := some "3" }
    status := some ⟨some .created, none, some ⟨"1Gi"⟩⟩ }

/-- The request to grow the volume to two gibibytes. -/
@[irreducible] def enlarged : Except Fault ExpandedVolume × Simulation :=
  Simulation.run .ofRoutine enlargement (expandVolume {} (growth 2147483648)) { cluster := stockedCluster } 0

end Sample

/-- The volume grows to two gibibytes by one write; to ask for it again takes none; and for twenty there is no room. -/
theorem growth_is_written_once_stocked :
    Sample.enlarged.1 = .ok ⟨2147483648, true⟩ ∧
      Sample.enlarged.2.cluster.journal = [.createVolume "pvc-1", .replaceVolume "pvc-1"] ∧
      (∃ a, (Simulation.run .ofRoutine [] (expandVolume {} (Sample.growth 2147483648)) Sample.enlarged.2 0).1 = .ok a ∧
        a.nodeExpansionRequired = true) ∧
      (Simulation.run .ofRoutine [] (expandVolume {} (Sample.growth 21474836480))
        { cluster := Sample.stockedCluster } 0).1 = .error (.insufficientCapacity 20401094656 10737418240) := by
  have hlives : Lives (fun _ => True) {} Sample.stockedCluster :=
    .tail _ (.tail _ (.tail _ .refl trivial trivial) trivial trivial) trivial trivial
  have hs := hlives.arises .empty
  obtain ⟨-, -, hruns⟩ := growth_is_written_once {} (Sample.growth 2147483648) hs
  obtain ⟨-, -, hgreedy⟩ := growth_is_written_once {} (Sample.growth 21474836480) hs
  have hok : Sample.enlarged.1 = .ok ⟨2147483648, true⟩ := by decide +kernel
  refine ⟨hok, by decide +kernel, ?_, ?_⟩
  · obtain ⟨-, hagain⟩ := hruns .ofRoutine Sample.enlargement { cluster := Sample.stockedCluster } 0 rfl
    have hrun : Sample.enlarged = Simulation.run .ofRoutine Sample.enlargement
        (expandVolume {} (Sample.growth 2147483648)) { cluster := Sample.stockedCluster } 0 := by rw [Sample.enlarged]
    rw [← hrun] at hagain
    obtain ⟨v, hv, hsecond⟩ := hagain _ hok
    have hlook := answer_getVolume_of_still (s := Sample.enlarged.2.cluster) (n := "pvc-1") (by decide +kernel)
      (unplanned_of_isEmpty (by decide +kernel))
    obtain ⟨a, ha, hnode, -⟩ := hsecond .ofRoutine [] Sample.enlarged.2 0 v
      ((congrArg Prod.fst hlook).trans (congrArg _ hv)) rfl
    exact ⟨a, ha, hnode⟩
  · obtain ⟨hrefused, -⟩ := hgreedy .ofRoutine [] { cluster := Sample.stockedCluster } 0 rfl
    have hlook := answer_getVolume_of_still (s := Sample.stockedCluster) (n := "pvc-1") (by decide +kernel)
      (unplanned_of_isEmpty (by decide +kernel))
    have hv : Sample.stockedCluster.volumes.get? "pvc-1" = some Sample.stockedVolume := by decide +kernel
    have hg : Sample.stockedCluster.groups.get? "vg-1" = some (Cluster.stamped Sample.group "1" none) := by
      decide +kernel
    have hsize : Quantity.bytesOrZero (some ⟨"10Gi"⟩) = .ok 10737418240 := by decide +kernel
    have hfree : Quantity.IsLeft (some ⟨"10Gi"⟩) none 10737418240 := ⟨10737418240, 0, hsize, rfl, rfl⟩
    have hshort : Shortage "vg-1" (21474836480 - 1073741824) (Sample.stockedCluster.groups.get? "vg-1")
        (.insufficientCapacity 20401094656 10737418240) := hg ▸ .full hfree (by decide)
    exact (hrefused Sample.stockedVolume 1073741824 _ (by decide) ((congrArg Prod.fst hlook).trans (congrArg _ hv))
      (by decide +kernel) (by decide) rfl hshort).1

end LocalVolumes
