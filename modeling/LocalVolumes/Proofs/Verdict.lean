import LocalVolumes.Proofs.Cluster.Identity
import LocalVolumes.Proofs.Interference
import LocalVolumes.Proofs.Treatment

/-!
# LocalVolumes.Proofs.Verdict — a verdict is on the class that is stored

A pass judges the class as it was when the pass was started, and writes its verdict into the status some calls later.
Meanwhile anybody may replace the class, delete it, or put another one in its place.  The copy of the class that the
pass holds always has the version of an object that declares what was judged, also after the pass has put the finalizer
on it.  So the status is written only where that object is stored still.
-/

namespace LocalVolumes

open Cluster
open Routine (noMatter)

/-- Anybody may do anything to a cluster. -/
def anyone : Rely where
  may := Run
  refl _ := .refl
  trans := .trans

/-- A routine asks for an effect next. -/
def Routine.Asks {α : Type} (t : Routine α) (e : Effect) : Prop := ∃ next, t = .ask e next

/-- A call that writes the status of a class. -/
def Call.WritesStatus : Call → Prop
  | .replaceLocalClassStatus _ => True
  | _ => False

theorem Call.WritesStatus.writesLocalClass {w : Call} (h : w.WritesStatus) : w.WritesLocalClass := by
  cases w with
  | replaceLocalClassStatus c => trivial
  | _ => exact h.elim

/-- A copy of a class that a pass was started on: it declares the same, and carries the version of an object that does. -/
structure Reflects (c d : LocalClass) (s : Cluster) : Prop where
  key : Resource.key d = Resource.key c
  restates : Restates d c
  origin : ∃ o : LocalClass, s.Identifies (.localClass o) ∧
    d.metadata.resourceVersion = o.metadata.resourceVersion ∧ Restates o c

/-- A status that is written, and what is stored just before and just after, are those of a class that declares the
same. -/
structure Concerns (c request stored : LocalClass) (s : Cluster) : Prop where
  key : Resource.key request = Resource.key c
  request : Restates request c
  before : ∃ current, s.localClasses.get? (Resource.key c) = some current ∧ Restates current c
  after : Restates stored c

/-- If the next step of a routine writes a status, it does so where what is stored declares the same as a class. -/
def Informed (c : LocalClass) {α : Type} (t : Routine α) (s _s' : Cluster) : Prop :=
  ∃ e, t.Asks e ∧ ∀ request stored s', e = .call (.replaceLocalClassStatus request) →
    s.Serves (.replaceLocalClassStatus request) (.ok stored) s' → Concerns c request stored s

variable {α β : Type} {c d : LocalClass} {s s' : Cluster}

theorem Effect.Served.run {e : Effect} {r : e.Answer} (h : e.Served s r s') : Run s s' := by
  cases e with
  | call call => exact Cluster.Serves.run h
  | now => exact h ▸ .refl
  | pause ms => exact h ▸ .refl
  | record x => exact h ▸ .refl

/-! ### Copies -/

/-- What is stored when the pass is started is a copy of itself. -/
theorem Reflects.of_stored (hs : s.Arises) (hc : s.localClasses.get? (Resource.key c) = some c) : Reflects c c s :=
  ⟨rfl, .refl c, c, hs.distinct _ (.localClass c) hc, rfl, .refl c⟩

theorem Reflects.run (h : Reflects c d s) (hr : Run s s') : Reflects c d s' := by
  obtain ⟨o, ho, hv, hsame⟩ := h.origin
  exact ⟨h.key, h.restates, o, hr.identifies ho, hv, hsame⟩

/-- A copy that is changed in neither its version nor in what it declares. -/
theorem Reflects.revised {d' : LocalClass} (h : Reflects c d s) (hkey : Resource.key d' = Resource.key d)
    (hsame : Restates d' d) (hv : d'.metadata.resourceVersion = d.metadata.resourceVersion) : Reflects c d' s := by
  obtain ⟨o, ho, hvo, hsame'⟩ := h.origin
  exact ⟨hkey.trans h.key, hsame.trans h.restates, o, ho, hv.trans hvo, hsame'⟩

theorem Reflects.addFinalizer (h : Reflects c d s) : Reflects c d.addFinalizer.1 s := by
  unfold LocalClass.addFinalizer
  split
  · exact h
  · exact h.revised rfl ⟨rfl, rfl, rfl⟩ rfl

theorem Reflects.removeFinalizer (h : Reflects c d s) : Reflects c d.removeFinalizer.1 s :=
  h.revised rfl ⟨rfl, rfl, rfl⟩ rfl

/-- A replacement by a copy meets an object that declares the same. -/
theorem Reflects.exists_met (h : Reflects c d s) {w : Call} {b : w.Answer} {request : LocalClass}
    (hw : w.replacement? = some (.localClass request))
    (hv : request.metadata.resourceVersion = d.metadata.resourceVersion) (hs : s.Serves w (.ok b) s') :
    ∃ current, s.localClasses.get? (Resource.key request) = some current ∧ Restates current c := by
  obtain ⟨o, ho, hvo, hsame⟩ := h.origin
  exact ⟨o, ho.holds_of_replacement hw (hv.trans hvo) hs, hsame⟩

/-- A status is written over an object that declares the same. -/
theorem Reflects.concerns (h : Reflects c d s) {request stored : LocalClass}
    (hkey : Resource.key request = Resource.key d) (hsame : Restates request d)
    (hv : request.metadata.resourceVersion = d.metadata.resourceVersion)
    (hs : s.Serves (.replaceLocalClassStatus request) (.ok stored) s') : Concerns c request stored s := by
  obtain ⟨current, hcurrent, hmet⟩ := h.exists_met rfl hv hs
  have hk : Resource.key request = Resource.key c := hkey.trans h.key
  refine ⟨hk, hsame.trans h.restates, ⟨current, hk ▸ hcurrent, hmet⟩, ?_⟩
  rcases hs.replaceLocalClassStatus with ⟨⟨e, he⟩, -⟩ | ⟨found, hfound, -, hstored, -⟩
  · cases he
  · obtain rfl := Option.some.inj (hcurrent.symm.trans hfound)
    obtain rfl := Except.ok.inj hstored
    exact ⟨hmet.name, hmet.deletion, hmet.spec⟩

/-- What is stored after a copy was written is a copy again. -/
theorem Reflects.replaceLocalClass (h : Reflects c d s) (hs : s.Arises) {stored : LocalClass}
    (hserves : s.Serves (.replaceLocalClass d) (.ok stored) s') : Reflects c stored s' := by
  obtain ⟨current, hcurrent, hmet⟩ := h.exists_met rfl rfl hserves
  have hidentified : s'.Identifies (.localClass stored) := hserves.identifies_shown hs.distinct rfl
  rcases hserves.replaceLocalClass with ⟨⟨e, he⟩, -⟩ | ⟨found, hfound, -, hstored, -⟩
  · cases he
  · obtain rfl := Option.some.inj (hcurrent.symm.trans hfound)
    obtain rfl := Except.ok.inj hstored
    have hsame : Restates (stamped (keepClassStatus current d) s.nextVersion current.metadata.deletionTimestamp) c :=
      ⟨h.restates.name, hmet.deletion, h.restates.spec⟩
    exact ⟨(key_stamped ..).trans h.key, hsame, _, hidentified, rfl, hsame⟩

/-! ### Passes -/

theorem Informed.bind {t : Routine β} (h : Informed c t s s') (f : β → Routine α) : Informed c (t.bind f) s s' := by
  obtain ⟨e, ⟨next, rfl⟩, hwrites⟩ := h
  exact ⟨e, ⟨fun r => (next r).bind f, rfl⟩, hwrites⟩

/-- A call that writes no status. -/
theorem Informed.call {w : Call} {f : w.Result → Routine α} (hw : ¬ w.WritesStatus) :
    Informed c ((Routine.call w).bind f) s s' := by
  refine ⟨.call w, ⟨f, rfl⟩, fun request stored s₁ he _ => ?_⟩
  cases he
  exact absurd trivial hw

theorem Informed.record {x : Sample} {f : Unit → Routine α} : Informed c ((Routine.record x).bind f) s s' := by
  refine ⟨.record x, ⟨f, rfl⟩, fun request stored s₁ he _ => ?_⟩
  cases he

/-- A routine that writes no status but where what is stored declares the same as a class. -/
def Vouches (c : LocalClass) {α : Type} (t : Routine α) (s : Cluster) : Prop :=
  t.Keeps Arises anyone (Informed c) noMatter s

namespace Vouches

theorem done (a : α) : Vouches c (.done a) s := fun _ _ _ => trivial

theorem bind {t : Routine β} {f : β → Routine α} (h : Vouches c t s) (hf : ∀ b s₁, Vouches c (f b) s₁) :
    Vouches c (t.bind f) s :=
  Routine.Keeps.bind (h.mono (fun _ _ _ hg => hg.bind f) fun _ _ _ hp => hp) fun b s₁ _ _ => hf b s₁

theorem call {w : Call} {f : w.Result → Routine α}
    (h : ∀ s₁ r s₂, Run s s₁ → s₁.Arises → s₁.Serves w r s₂ →
      Informed c ((Routine.call w).bind f) s₁ s₂ ∧ Vouches c (f r) s₂) : Vouches c ((Routine.call w).bind f) s :=
  Routine.Keeps.call fun s₁ r s₂ hr hs hserves => ⟨hserves.run.arises hs, h s₁ r s₂ hr hs hserves⟩

theorem record {x : Sample} {f : Unit → Routine α} (h : Vouches c (f ()) s) :
    Vouches c ((Routine.record x).bind f) s :=
  Routine.Keeps.record (fun _ => .record) h

end Vouches

/-- A status is written by way of a copy. -/
theorem Reflects.vouches_setStatus (h : Reflects c d s) (status : ClassStatus) : Vouches c (Pass.setStatus d status) s := by
  unfold Pass.setStatus
  split
  · exact .done _
  · rw [← Routine.bind_pure_right (Routine.call _)]
    refine .call fun s₁ r s₂ hr hs hserves => ⟨?_, .done r⟩
    refine ⟨_, ⟨_, rfl⟩, fun request stored s₃ he hwritten => ?_⟩
    cases he
    exact (h.run hr).concerns rfl ⟨rfl, rfl, rfl⟩ rfl hwritten

theorem Reflects.vouches_abandon (h : Reflects c d s) (e : Fault) : Vouches c (Pass.abandon d e) s := by
  refine Vouches.bind ?_ fun e s₁ => .done _
  refine (h.vouches_setStatus _).bind fun r s₁ => ?_
  cases r <;> exact .done _

theorem Reflects.vouches_succeed (h : Reflects c d s) : Vouches c (Pass.succeed d) s := by
  refine (h.vouches_setStatus _).bind fun r s₁ => ?_
  cases r <;> exact .done _

/-- **Whatever a pass does to its class, its verdicts are on a class that declares the same.** -/
theorem Treats.vouches {t : Routine (Except Fault Outcome)} (h : Treats d t) (hd : Reflects c d s) : Vouches c t s := by
  induction h generalizing s with
  | ends d o => exact .done _
  | succeeds d => exact hd.vouches_succeed
  | abandons d e => exact hd.vouches_abandon e
  | @aside d w f hw _ ih =>
    refine .call fun s₁ r s₂ hr _ hserves => ⟨.call fun hstatus => hw hstatus.writesLocalClass, ?_⟩
    exact ih r ((hd.run hr).run hserves.run)
  | @marks d f hend _ ih =>
    refine .call fun s₁ r s₂ hr hs hserves => ⟨.call id, ?_⟩
    cases r with
    | error e => exact hend e ▸ .done _
    | ok stored =>
      -- the pass goes on with what is stored, which has a version of its own
      exact ih stored ((hd.run hr).addFinalizer.replaceLocalClass hs hserves)
  | @lets d f _ hend _ ih =>
    refine .call fun s₁ r s₂ hr hs hserves => ⟨.call id, ?_⟩
    cases r with
    | error e => exact ih e ((hd.run hr).run hserves.run).removeFinalizer
    | ok stored => exact hend stored ▸ .done _

theorem Reflects.vouches_reconcile (h : Reflects c c s) : Vouches c (reconcile c) s := by
  rw [Pass.reconcile_eq]
  refine .call fun s₁ r s₂ hr _ hserves => ⟨.call id, ?_⟩
  have h₂ : Reflects c c s₂ := (h.run hr).run hserves.run
  cases r with
  | error e => exact .done _
  | ok classes =>
    dsimp only [Pass.proceed]
    split
    · exact .record (h₂.vouches_abandon _)
    · exact ((Treats.run _).vouches h₂).bind fun r s₃ => .record (.done r)

/-! ### Worlds -/

/-- **No verdict is stale.**  Passes over any classes run side by side, call by call, among others who replace, delete
and put classes as they like.  A pass was started when its class was stored as the pass was given it, and is under way
since.  If it then writes a status and succeeds, the class that is stored just before declares the same as the one the
pass was started on, and its deletion was asked for at the same time, if at all; so do the class with the status as the
pass writes it and as it is stored afterwards. -/
theorem no_verdict_is_stale {ι : Type} [DecidableEq ι] {classes : ι → LocalClass} {s s' : Cluster} (hs : s.Arises)
    {w₁ w : World ι (Except Fault Outcome)} {i : ι}
    (hbefore : Relation.ReflTransGen (World.Step Cluster.Step fun i => reconcile (classes i)) (.idle s) w₁)
    (hstart : w₁.tasks i = some (reconcile (classes i)))
    (hstored : w₁.cluster.localClasses.get? (Resource.key (classes i)) = some (classes i))
    (hsince : Relation.ReflTransGen
      (World.StepFrom (fun w => w.tasks i ≠ none) Cluster.Step fun i => reconcile (classes i)) w₁ w)
    {request stored : LocalClass} {next : Except Fault LocalClass → Routine (Except Fault Outcome)}
    (hask : w.tasks i = some (.ask (.call (.replaceLocalClassStatus request)) next))
    (hok : w.cluster.Serves (.replaceLocalClassStatus request) (.ok stored) s') :
    Concerns (classes i) request stored w.cluster := by
  have hothers (s s' : Cluster) (h : Cluster.Step s s') : anyone.may s s' := .single h
  have hserved (e : Effect) (r : e.Answer) (s s' : Cluster) (h : e.Served s r s') : anyone.may s s' := h.run
  have harises : w₁.cluster.Arises := Run.arises (World.may_of_steps hothers hserved hbefore) hs
  have hvouches : Vouches (classes i) (reconcile (classes i)) w₁.cluster :=
    (Reflects.of_stored harises hstored).vouches_reconcile
  have hunder : w.tasks i ≠ none := by
    rw [hask]
    exact Option.some_ne_none _
  -- the other passes are among the others as the pass sees them, so it is followed by itself
  obtain ⟨u, hu, hprogress⟩ := World.progress_of_steps hothers hserved hstart hunder hsince
  obtain rfl := Option.some.inj (hask.symm.trans hu)
  obtain ⟨harises', hkeeps⟩ := Routine.Keeps.progress hvouches harises (fun _ _ hs hr => Run.arises hr hs) hprogress
  obtain ⟨-, ⟨e, ⟨next', he⟩, hwrites⟩, -⟩ := hkeeps w.cluster (.ok stored) s' (anyone.refl _) harises' hok
  cases he
  exact hwrites request stored s' rfl hok

namespace Sample

/-- The cluster and what is left of the first pass over the class, once the storage class is made. -/
def firstVerdict : Cluster × Routine (Except Fault Outcome) := (reconcile storedClass).after 4 cluster

/-- The cluster after the group of the class has gone from its node just then. -/
def regrouped : Cluster := firstVerdict.1.intervene (.putVolumeGroup { group with status := none })

/-- The status that a routine asks to be written next. -/
def asked? : Routine (Except Fault Outcome) → Option LocalClass
  | .ask (.call (.replaceLocalClassStatus request)) _ => some request
  | _ => none

theorem exists_of_asked? {t : Routine (Except Fault Outcome)} {request : LocalClass} (h : asked? t = some request) :
    ∃ next, t = .ask (.call (.replaceLocalClassStatus request)) next := by
  unfold asked? at h
  split at h
  · next request' next =>
    obtain rfl := Option.some.inj h
    exact ⟨next, rfl⟩
  · cases h

/-- The class as the first pass writes its status. -/
def verdict : LocalClass := (asked? firstVerdict.2).getD localClass

end Sample

/-- The first pass over a class writes its verdict after the group of the class has changed. -/
theorem no_verdict_is_stale_first_pass :
    Sample.cluster.localClasses.get? "local" = some Sample.storedClass ∧ Sample.verdict.status = some .created ∧
      ∃ stored, (Sample.regrouped.answer (.replaceLocalClassStatus Sample.verdict)).1 = .ok stored ∧
        Concerns Sample.storedClass Sample.verdict stored Sample.regrouped := by
  let work : Unit → Routine (Except Fault Outcome) := fun _ => reconcile Sample.storedClass
  have hstored : Sample.cluster.localClasses.get? "local" = some Sample.storedClass := by decide +kernel
  have hasked : Sample.asked? Sample.firstVerdict.2 = some Sample.verdict := by
    have h : (Sample.asked? Sample.firstVerdict.2).isSome = true := by decide +kernel
    obtain ⟨request, hrequest⟩ := Option.isSome_iff_exists.1 h
    simp only [Sample.verdict, hrequest, Option.getD_some]
  obtain ⟨next, hnext⟩ := Sample.exists_of_asked? hasked
  have hcreated : Sample.verdict.status = some .created := by decide +kernel
  obtain ⟨stored, hok⟩ : ∃ stored, (Sample.regrouped.answer (.replaceLocalClassStatus Sample.verdict)).1 = .ok stored := by
    have h : (Sample.regrouped.answer (.replaceLocalClassStatus Sample.verdict)).1.toOption.isSome = true := by
      decide +kernel
    obtain ⟨stored, hsome⟩ := Option.isSome_iff_exists.1 h
    exact ⟨stored, Except.eq_ok_of_toOption hsome⟩
  have hserves : Sample.regrouped.Serves (.replaceLocalClassStatus Sample.verdict) (.ok stored)
      (Sample.regrouped.answer (.replaceLocalClassStatus Sample.verdict)).2 := hok ▸ serves_answer _ _
  -- the pass is started, makes four calls, and then the group changes
  have hbefore : Relation.ReflTransGen (World.Step Cluster.Step work) (.idle Sample.cluster)
      (.lone Sample.cluster (reconcile Sample.storedClass)) := .single (World.lone_start Cluster.Step work _)
  have hsince : Relation.ReflTransGen (World.StepFrom (fun w => w.tasks () ≠ none) Cluster.Step work)
      (.lone Sample.cluster (reconcile Sample.storedClass)) (.lone Sample.regrouped Sample.firstVerdict.2) := by
    refine (World.lone_after Cluster.Step work 4 Sample.cluster (reconcile Sample.storedClass)).tail ?_
    exact ⟨.disturb (.intervene _ _), Option.some_ne_none _⟩
  have hask : (World.lone Sample.regrouped Sample.firstVerdict.2).tasks () =
      some (.ask (.call (.replaceLocalClassStatus Sample.verdict)) next) := congrArg some hnext
  exact ⟨hstored, hcreated, stored, hok,
    @no_verdict_is_stale Unit _ (fun _ => Sample.storedClass) _ _ Sample.arises_cluster _ _ () hbefore rfl hstored
      hsince _ _ _ hask hserves⟩

end LocalVolumes
