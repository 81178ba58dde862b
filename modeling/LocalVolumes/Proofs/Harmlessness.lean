import LocalVolumes.Proofs.Completion
import LocalVolumes.Proofs.Rest

/-!
# LocalVolumes.Proofs.Harmlessness — a class that cannot be put into effect harms nothing

The storage class of a name is taken away before another one takes its place, so all that can be wrong with a class has
to be found before.  A pass over a class that is not admissible, or whose storage class cannot be read, comes to none
of the calls that write storage classes, but for a creation that finds its name taken.  It writes no more than the
status of the class and the finalizer, wherever its calls fail and wherever it is given up.
-/

namespace LocalVolumes

open Cluster

variable {α β : Type} {n : String} {c c' copy : LocalClass} {s s₁ s₂ t : Cluster}

/-- A class that cannot be put into effect, for one of three reasons. -/
inductive Inadmissible (n : String) (c : LocalClass) (s : Cluster) : Prop
  /-- The groups and pools that it asks for cannot be found out. -/
  | unresolved (e : Fault) : resolved s.groups.values c = .error e → Inadmissible n c s
  /-- Something is wrong with it, or with the groups. -/
  | invalid (bindings : List Binding) : resolved s.groups.values c = .ok bindings →
    violations c bindings s.groups.values s.storageClasses.values ≠ [] → Inadmissible n c s
  /-- Its storage class does not tell what it is bound to. -/
  | unreadable (sc : StorageClass) : s.storageClasses.get? n = some sc → sc.isManaged = true →
    currentBindings? sc = none → Inadmissible n c s

/-- Another version of a class, which differs in its version, its status, and the finalizer of the controller after
all others. -/
structure Noted (c' c : LocalClass) : Prop where
  spec : c'.spec = c.spec
  metadata : ∃ finalizers version,
    c'.metadata = { c.metadata with finalizers := finalizers, resourceVersion := version } ∧
      (finalizers = c.metadata.finalizers ∨
        c.hasFinalizer = false ∧ finalizers = some (c.metadata.finalizerList ++ [Marks.controllerFinalizer]))

/-- Nothing has changed but what is noted of the class of a name. -/
structure Unharmed (n : String) (c : LocalClass) (s t : Cluster) : Prop where
  storageClasses : t.storageClasses = s.storageClasses
  groups : t.groups = s.groups
  volumes : t.volumes = s.volumes
  localClasses : ∀ k ≠ n, t.localClasses.get? k = s.localClasses.get? k
  noted : ∃ c', t.localClasses.get? n = some c' ∧ Noted c' c

namespace Noted

theorem refl (c : LocalClass) : Noted c c := ⟨rfl, _, _, rfl, .inl rfl⟩

theorem restates (h : Noted c' c) : Restates c' c := by
  obtain ⟨fs, v, hm, -⟩ := h.metadata
  exact ⟨by rw [hm], by rw [hm], h.spec⟩

theorem key (h : Noted c' c) (hn : c.metadata.name = some n) : Resource.key c' = n :=
  Resource.key_of_name (h.restates.name.trans hn)

/-- The class with another status, under another version. -/
theorem takeClassStatus (h : Noted c' c) (request : LocalClass) (v : String) :
    Noted (stamped (takeClassStatus c' request) v c'.metadata.deletionTimestamp) c := by
  obtain ⟨fs, v', hm, hfs⟩ := h.metadata
  refine ⟨h.spec, fs, some v, ?_, hfs⟩
  change { c'.metadata with resourceVersion := some v, deletionTimestamp := c'.metadata.deletionTimestamp } = _
  rw [hm]

/-- The class with the finalizer, in the place of what is stored. -/
theorem addFinalizer (h : Noted c' c) (hfin : c.hasFinalizer = false) (v : String) :
    let marked : LocalClass := { c with metadata := c.metadata.addFinalizer Marks.controllerFinalizer }
    Noted (stamped (keepClassStatus c' marked) v c'.metadata.deletionTimestamp) c := by
  intro marked
  rw [h.restates.deletion]
  exact ⟨rfl, _, some v, rfl, .inr ⟨hfin, rfl⟩⟩

end Noted

/-! ### What cannot be put into effect -/

namespace Inadmissible

variable {classes : List StorageClass}

theorem restates (h : Inadmissible n c s) (hr : Restates c' c) : Inadmissible n c' s := by
  cases h with
  | unresolved e he => exact .unresolved e (hr.resolved.trans he)
  | invalid bindings hb hv =>
    refine .invalid bindings (hr.resolved.trans hb) fun hnil => hv ?_
    have hjudge := Pass.judge_eq_ok_iff.2 ⟨hr.resolved.trans hb, hnil⟩
    exact (Pass.judge_eq_ok_iff.1 (hr.judge.symm.trans hjudge)).2
  | unreadable sc hsc hm hnone => exact .unreadable sc hsc hm hnone

/-- A class that passes all checks has a storage class that cannot be read. -/
theorem of_judge (h : Inadmissible n c s) {bindings : List Binding}
    (hj : Pass.judge c s.groups.values s.storageClasses.values = .ok bindings) :
    ∃ sc, s.storageClasses.get? n = some sc ∧ currentBindings? sc = none := by
  obtain ⟨hb, hv⟩ := Pass.judge_eq_ok_iff.1 hj
  cases h with
  | unresolved e he => simp [he] at hb
  | invalid bindings' hb' hv' =>
    obtain rfl := Except.ok.inj (hb'.symm.trans hb)
    exact absurd hv hv'
  | unreadable sc hsc _ hnone => exact ⟨sc, hsc, hnone⟩

/-- A storage class that cannot be read does not give way to another. -/
theorem revise_ne_ok (h : Inadmissible n c s) (hk : Keyed s.storageClasses) (hn : c.name = n)
    (r : StorageClass × Option StorageClass) :
    Pass.revise c s.groups.values s.storageClasses.values ≠ .ok r := by
  intro hr
  obtain ⟨bindings, hj, hf, hr⟩ := Pass.revise_eq_ok_iff.1 hr
  obtain ⟨sc, hsc, hnone⟩ := h.of_judge hj
  have hstored := ((findClass?_values_eq_some_iff hk).1 (hn ▸ hf)).1
  obtain rfl := Option.some.inj (hstored.symm.trans hsc)
  have hd : drifted r.1 c bindings ≠ .ok false ∧ drifted r.1 c bindings ≠ .ok true := by
    simp [drifted, hasDiff?, hnone]
  rcases hr with ⟨-, hdrift⟩ | ⟨sc, -, hdrift, -⟩
  · exact hd.1 hdrift
  · exact hd.2 hdrift

end Inadmissible

/-! ### Calls -/

namespace Unharmed

theorem refl (hc : s.localClasses.get? n = some c) : Unharmed n c s s :=
  ⟨rfl, rfl, rfl, fun _ _ => rfl, c, hc, .refl c⟩

theorem rests (h : Unharmed n c s s₁) (hr : s₁.Rests s₂) : Unharmed n c s s₂ := by
  obtain ⟨v, fs, -, rfl⟩ := hr
  exact ⟨h.storageClasses, h.groups, h.volumes, h.localClasses, h.noted⟩

/-- A call that only looks. -/
theorem serves (h : Unharmed n c s s₁) {call : Call} {r : call.Result} (hs : s₁.Serves call r s₂)
    (hsc : ¬ call.WritesStorageClass) (hlc : ¬ call.WritesLocalClass) (hv : ¬ call.TouchesVolume) :
    Unharmed n c s s₂ := by
  have hframe := hs.frame
  refine ⟨(hframe.storageClasses hsc).trans h.storageClasses, hframe.groups.trans h.groups,
    (hframe.volumes hv).trans h.volumes, ?_, ?_⟩
  · rw [hframe.localClasses hlc]
    exact h.localClasses
  · rw [hframe.localClasses hlc]
    exact h.noted

/-- The class of the name is written, and nothing else. -/
theorem write (h : Unharmed n c s s₁) (hlive : c.isBeingDeleted = false) (hnoted : Noted c' c)
    (hl : s₂.localClasses = settled s₁.localClasses n c') (hsc : s₂.storageClasses = s₁.storageClasses)
    (hg : s₂.groups = s₁.groups) (hv : s₂.volumes = s₁.volumes) : Unharmed n c s s₂ := by
  refine ⟨hsc.trans h.storageClasses, hg.trans h.groups, hv.trans h.volumes, fun k hk => ?_, c', ?_, hnoted⟩
  · rw [hl, get?_settled_ne c' hk, h.localClasses k hk]
  · rw [hl]
    exact get?_settled_of_live (hnoted.restates.isBeingDeleted.trans hlive)

theorem replaceLocalClassStatus (h : Unharmed n c s s₁) (hlive : c.isBeingDeleted = false) {request : LocalClass}
    {r : Except Fault LocalClass} (hk : Resource.key request = n)
    (hs : s₁.Serves (.replaceLocalClassStatus request) r s₂) : Unharmed n c s s₂ := by
  rcases hs.replaceLocalClassStatus with hf | ⟨stored, hstored, -, -, rfl⟩
  · exact h.rests hf.2
  · obtain ⟨c', hc', hnoted⟩ := h.noted
    obtain rfl := Option.some.inj (hc'.symm.trans (hk ▸ hstored))
    exact h.write hlive (hnoted.takeClassStatus request s₁.nextVersion) (hk ▸ rfl) rfl rfl rfl

/-- The finalizer is put on the class. -/
theorem addFinalizer (h : Unharmed n c s s₁) (hlive : c.isBeingDeleted = false) (hn : c.metadata.name = some n)
    (hfin : c.hasFinalizer = false) {r : Except Fault LocalClass}
    (hs : s₁.Serves
      (.replaceLocalClass { c with metadata := c.metadata.addFinalizer Marks.controllerFinalizer }) r s₂) :
    Unharmed n c s s₂ ∧ ∀ stored, r = .ok stored → Noted stored c := by
  have hk : Resource.key { c with metadata := c.metadata.addFinalizer Marks.controllerFinalizer } = n :=
    Resource.key_of_name hn
  rcases hs.replaceLocalClass with hf | ⟨stored, hstored, -, rfl, rfl⟩
  · refine ⟨h.rests hf.2, ?_⟩
    rintro stored rfl
    obtain ⟨e, he⟩ := hf.1
    simp at he
  · obtain ⟨c', hc', hnoted⟩ := h.noted
    obtain rfl := Option.some.inj (hc'.symm.trans (hk ▸ hstored))
    have hmarked := hnoted.addFinalizer hfin s₁.nextVersion
    exact ⟨h.write hlive hmarked (hk ▸ rfl) rfl rfl rfl, fun stored he => Except.ok.inj he ▸ hmarked⟩

/-- A creation under a name that is taken. -/
theorem createStorageClass (h : Unharmed n c s s₁) {sc desired : StorageClass} {r : Except Fault StorageClass}
    (hsc : s.storageClasses.get? (Resource.key desired) = some sc)
    (hs : s₁.Serves (.createStorageClass desired) r s₂) : Unharmed n c s s₂ ∧ ∃ e, r = .error e := by
  rcases hs.createStorageClass with hf | ⟨hnone, -⟩
  · exact ⟨h.rests hf.2, hf.1⟩
  · rw [h.storageClasses, hsc] at hnone
    simp at hnone

end Unharmed

/-! ### Flows -/

/-- A routine that harms nothing, wherever its calls fail, if nobody else acts. -/
def Harmless (n : String) (c : LocalClass) (s : Cluster) (t : Routine α) (s₁ : Cluster) : Prop :=
  t.Keeps (Unharmed n c s) undisturbed (fun _ _ _ => True) Routine.noMatter s₁

namespace Harmless

theorem done (a : α) : Harmless n c s (.done a) s₁ := fun _ _ _ => trivial

theorem bind {t : Routine β} {f : β → Routine α} (h : Harmless n c s t s₁)
    (hf : ∀ b s₂, Harmless n c s (f b) s₂) : Harmless n c s (t.bind f) s₁ :=
  Routine.Keeps.bind h fun b s₂ _ _ => hf b s₂

theorem call {call : Call} {f : call.Result → Routine α}
    (h : ∀ s₁ r s₂, Unharmed n c s s₁ → s₁.Serves call r s₂ → Unharmed n c s s₂ ∧ Harmless n c s (f r) s₂) :
    Harmless n c s ((Routine.call call).bind f) s₁ := by
  refine Routine.Keeps.call fun s₁ r s₂ _ hi hs => ?_
  obtain ⟨hi₂, hk⟩ := h s₁ r s₂ hi hs
  exact ⟨hi₂, trivial, hk⟩

theorem record {x : Sample} {f : Unit → Routine α} (h : Harmless n c s (f ()) s₁) :
    Harmless n c s ((Routine.record x).bind f) s₁ := Routine.Keeps.record (fun _ => trivial) h

end Harmless

namespace Pass

theorem harmless_setStatus (hlive : c.isBeingDeleted = false) (hk : Resource.key copy = n) (st : ClassStatus) :
    Harmless n c s (setStatus copy st) s₁ := by
  unfold setStatus
  split
  · exact .done _
  · have hk' : Resource.key { copy with status := some st } = n := hk
    rw [← Routine.bind_pure_right (Routine.call _)]
    exact .call fun s₁ r s₂ h hs => ⟨h.replaceLocalClassStatus hlive hk' hs, .done _⟩

theorem harmless_abandon (hlive : c.isBeingDeleted = false) (hk : Resource.key copy = n) (e : Fault) :
    Harmless n c s (abandon copy e) s₁ := by
  refine .bind (.bind (harmless_setStatus hlive hk _) fun r s₂ => ?_) fun e s₂ => .done _
  cases r <;> exact .done _

/-- A creation of the storage class, by a copy of the class. -/
theorem harmless_createClass (hlive : c.isBeingDeleted = false) (hn : c.metadata.name = some n)
    (hcopy : Noted copy c) (hbad : Inadmissible n c s) :
    Harmless n c s (createClass n copy s.storageClasses.values) s₁ := by
  have hk : Resource.key copy = n := hcopy.key hn
  rw [createClass_eq]
  refine .call fun s₁ r s₂ h hs => ⟨h.serves hs id id id, ?_⟩
  rcases hs.listVolumeGroups with ⟨⟨e, rfl⟩, -⟩ | ⟨rfl, -⟩
  · exact harmless_abandon hlive hk _
  dsimp only
  rw [h.groups]
  split
  · exact harmless_abandon hlive hk _
  next desired hdraft =>
  split
  · exact .done _
  -- the class has passed all checks, so the name of the storage class is taken
  obtain ⟨bindings, lvm, hjudge, -, rfl⟩ := draft_eq_ok hdraft
  obtain ⟨sc, hsc, -⟩ := (hbad.restates hcopy.restates).of_judge hjudge
  have hdesired : Resource.key (Materialization.storageClass copy lvm bindings) = n := by
    rw [(isMaterialization_storageClass copy lvm bindings).key, hcopy.restates.name_eq]
    exact Metadata.nameOrUnknown_of_name hn
  refine .call fun s₁ r s₂ h hs => ?_
  obtain ⟨h₂, e, rfl⟩ := h.createStorageClass (hdesired.symm ▸ hsc) hs
  refine ⟨h₂, ?_⟩
  dsimp only
  split
  · exact .done _
  · exact harmless_abandon hlive hk _

theorem harmless_create (hlive : c.isBeingDeleted = false) (hn : c.metadata.name = some n)
    (hbad : Inadmissible n c s) : Harmless n c s (create c s.storageClasses.values) s₁ := by
  have hname : c.name = n := Metadata.nameOrUnknown_of_name hn
  cases hfin : c.hasFinalizer with
  | true =>
    rw [create_of_hasFinalizer hfin, hname]
    exact harmless_createClass hlive hn (.refl c) hbad
  | false =>
    rw [create_of_not_hasFinalizer hfin rfl, hname]
    refine .call fun s₁ r s₂ h hs => ?_
    obtain ⟨h₂, hstored⟩ := h.addFinalizer hlive hn hfin hs
    refine ⟨h₂, ?_⟩
    cases r with
    | error e => exact .done _
    | ok stored => exact harmless_createClass hlive hn (hstored stored rfl) hbad

theorem harmless_update (hs : Keyed s.storageClasses) (hlive : c.isBeingDeleted = false)
    (hn : c.metadata.name = some n) (hbad : Inadmissible n c s) :
    Harmless n c s (update c s.storageClasses.values) s₁ := by
  have hk : Resource.key c = n := Resource.key_of_name hn
  refine .call fun s₁ r s₂ h hserves => ⟨h.serves hserves id id id, ?_⟩
  rcases hserves.listVolumeGroups with ⟨⟨e, rfl⟩, -⟩ | ⟨rfl, -⟩
  · exact harmless_abandon hlive hk _
  dsimp only
  rw [h.groups]
  -- nothing is taken away, because the class does not come through the checks
  cases hrevise : revise c s.groups.values s.storageClasses.values with
  | error e => exact harmless_abandon hlive hk e
  | ok r => exact absurd hrevise (hbad.revise_ne_ok hs (Metadata.nameOrUnknown_of_name hn) r)

end Pass

theorem harmless_reconcile (hs : Keyed s.storageClasses) (hlive : c.isBeingDeleted = false)
    (hn : c.metadata.name = some n) (hbad : Inadmissible n c s) : Harmless n c s (reconcile c) s₁ := by
  rw [Pass.reconcile_eq]
  refine .call fun s₁ r s₂ h hserves => ⟨h.serves hserves id id id, ?_⟩
  rcases hserves.listStorageClasses with ⟨⟨e, rfl⟩, -⟩ | ⟨rfl, -⟩
  · exact .done _
  dsimp only
  rw [h.storageClasses, Pass.proceed]
  split
  · exact .record (Pass.harmless_abandon hlive (Resource.key_of_name hn) _)
  next flow hflow =>
  refine .bind ?_ fun r s₂ => .record (.done _)
  cases flow with
  | create => exact Pass.harmless_create hlive hn hbad
  | update => exact Pass.harmless_update hs hlive hn hbad
  | delete =>
    have hdeleted : c.isBeingDeleted = true := finds_of_identifyFlow hflow
    exact absurd (hlive.symm.trans hdeleted) Bool.false_ne_true
  | nothing => exact .done _

/-- **A class that cannot be put into effect harms nothing.**  A pass runs over a class that is not being deleted;
calls fail anywhere, and nobody else acts.  If the class cannot be resolved, does not pass the checks, or has a storage
class that cannot be read, then at every point of the pass all storage classes, groups, volumes and other classes are
as they were, and the class itself differs at most in its version, in its status, and in the finalizer of the
controller that was put after its finalizers. -/
theorem inadmissible_class_harms_nothing {u : Routine (Except Fault Outcome)} (hs : s.Arises)
    (hc : s.localClasses.get? n = some c) (hn : c.metadata.name = some n) (hlive : c.isBeingDeleted = false)
    (hbad : Inadmissible n c s) (hrun : (reconcile c).Progress undisturbed s u t) : Unharmed n c s t := by
  refine ((harmless_reconcile hs.tidy.storageClasses hlive hn hbad).progress (.refl hc) ?_ hrun).1
  rintro s₁ s₂ h rfl
  exact h

namespace Sample

/-- The class, when it asks for a group that is not there. -/
def strayClass : LocalClass :=
  { localClass with spec := { localClass.spec with
    lvm := localClass.spec.lvm.map fun lvm => { lvm with groups := [⟨"vg-9", none⟩] } } }

/-- The cluster after the first pass, when the owner has revised the class. -/
def strayCluster : Cluster := firstPass.2.cluster.intervene (.putLocalClass strayClass)

/-- The class as it is stored. -/
def storedStrayClass : LocalClass := Cluster.stamped strayClass "6" none

/-- A pass over it. -/
@[irreducible] def strayPass : Except Fault Outcome × Simulation :=
  Simulation.run .ofRoutine [] (reconcile storedStrayClass) { cluster := strayCluster } 0

theorem arises_strayCluster : strayCluster.Arises := by
  refine .intervene _ ?_
  rw [firstPass]
  exact Simulation.arises_run (s := { cluster := cluster }) arises_cluster

end Sample

/-- The class asks for a group that is not there, and the storage class stays as the first pass has made it. -/
theorem inadmissible_class_harms_nothing_stray :
    isOk Sample.strayPass.1 = false ∧
      (∃ sc, Sample.strayCluster.storageClasses.get? "local" = some sc ∧
        Sample.strayPass.2.cluster.storageClasses.get? "local" = some sc) ∧
      Sample.strayPass.2.cluster.volumes = Sample.strayCluster.volumes := by
  have hb : resolved Sample.strayCluster.groups.values Sample.storedStrayClass = .ok [⟨"vg-9", none⟩] :=
    Except.eq_ok_of_toOption (by decide +kernel)
  have hbad : Inadmissible "local" Sample.storedStrayClass Sample.strayCluster :=
    .invalid _ hb (by decide +kernel)
  have hrun := Simulation.progress_run undisturbed .ofRoutine (reconcile Sample.storedStrayClass)
    { cluster := Sample.strayCluster } 0
  have e : Sample.strayPass =
      Simulation.run .ofRoutine [] (reconcile Sample.storedStrayClass) { cluster := Sample.strayCluster } 0 := by
    rw [Sample.strayPass]
  rw [← e] at hrun
  have hunharmed := inadmissible_class_harms_nothing Sample.arises_strayCluster (by decide +kernel)
    (by decide +kernel) (by decide +kernel) hbad hrun
  obtain ⟨sc, hsc⟩ : ∃ sc, Sample.strayCluster.storageClasses.get? "local" = some sc :=
    Option.isSome_iff_exists.1 (by decide +kernel)
  exact ⟨by decide +kernel, ⟨sc, hsc, hunharmed.storageClasses ▸ hsc⟩, hunharmed.volumes⟩

end LocalVolumes
