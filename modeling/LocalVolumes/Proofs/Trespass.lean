import LocalVolumes.Proofs.Cluster.StorageClasses
import LocalVolumes.Proofs.Cluster.Undisturbed
import LocalVolumes.Proofs.Decision
import LocalVolumes.Proofs.Simulation

/-!
# LocalVolumes.Proofs.Trespass — what passes do to the storage classes of someone else

A pass looks once at the storage classes, and from then on goes by what it has seen, while others create and delete
storage classes.  Creations and replacements never touch what belongs to someone else: a creation fails on a name that
is taken, and a replacement on a version that is not the one that was seen.  A deletion goes by the name alone.  So a
storage class of someone else is taken away only if it has come, since the pass has looked, in the place of a managed
one.
-/

namespace LocalVolumes

open Cluster
open Routine (noMatter)

/-- Others give to a storage class no version that was given before. -/
def renewing : Rely where
  may := RenewsClasses
  refl := RenewsClasses.refl
  trans := RenewsClasses.trans

/-- What is left of a routine is about to delete the storage class of a name. -/
def Routine.AsksDeletion {α : Type} (n : String) (t : Routine α) : Prop :=
  ∃ next, t = .ask (.call (.deleteStorageClass n)) next

/-- A step of a pass over a name, which has seen the storage classes of an earlier state: it leaves the storage classes
of someone else alone, or it is the deletion of the one of its name, and the one that it has seen was managed. -/
def Heeds (n : String) (seen : Cluster) {α : Type} (t : Routine α) (s s' : Cluster) : Prop :=
  LeavesForeign s s' ∨
    t.AsksDeletion n ∧ (∀ k, k ≠ n → s'.storageClasses.get? k = s.storageClasses.get? k) ∧
      ∃ current, seen.storageClasses.get? n = some current ∧ current.isManaged = true

variable {α β : Type} {n : String} {seen s s' : Cluster}

theorem Heeds.refl (t : Routine α) (s : Cluster) : Heeds n seen t s s := .inl (.of_eq rfl)

theorem Heeds.bind {t : Routine β} (h : Heeds n seen t s s') (f : β → Routine α) : Heeds n seen (t.bind f) s s' := by
  refine h.imp id fun ⟨⟨next, ht⟩, hrest⟩ => ⟨⟨fun r => (next r).bind f, ?_⟩, hrest⟩
  rw [ht, Routine.bind_ask]

/-! ### Passes -/

/-- A routine of a pass over a name that has seen the storage classes of an earlier state. -/
def Minds (n : String) (seen : Cluster) {α : Type} (t : Routine α) (s : Cluster) : Prop :=
  t.Keeps (fun _ => True) renewing (Heeds n seen) (fun _ => RenewsClasses seen) s

namespace Minds

theorem done {a : α} (h : RenewsClasses seen s) : Minds n seen (.done a) s := fun _ hr _ => h.trans hr

theorem bind {t : Routine β} {f : β → Routine α} (h : Minds n seen t s)
    (hf : ∀ b s₁, RenewsClasses seen s₁ → Minds n seen (f b) s₁) : Minds n seen (t.bind f) s :=
  Routine.Keeps.bind (h.mono (fun _ _ _ hg => hg.bind f) fun _ _ _ hp => hp) fun b s₁ _ => hf b s₁

/-- A call and what follows it. -/
theorem call {c : Call} {f : c.Result → Routine α} (h : RenewsClasses seen s)
    (hg : ∀ r s₁ s₂, RenewsClasses seen s₁ → s₁.Serves c r s₂ → Heeds n seen ((Routine.call c).bind f) s₁ s₂)
    (hf : ∀ r s₁, RenewsClasses seen s₁ → Minds n seen (f r) s₁) : Minds n seen ((Routine.call c).bind f) s :=
  Routine.Keeps.call fun s₁ r s₂ hr _ hs =>
    ⟨trivial, hg r s₁ s₂ (h.trans hr) hs, hf r s₂ ((h.trans hr).trans (.serves hs))⟩

/-- A call and nothing after it. -/
theorem call_done {c : Call} (h : RenewsClasses seen s)
    (hg : ∀ r s₁ s₂, RenewsClasses seen s₁ → s₁.Serves c r s₂ → Heeds n seen (Routine.call c) s₁ s₂) :
    Minds n seen (Routine.call c) s := by
  rw [← Routine.bind_pure_right (Routine.call c)] at hg ⊢
  exact .call h hg fun r s₁ h₁ => .done h₁

/-- A call that leaves the storage classes alone, and what follows it. -/
theorem aside {c : Call} {f : c.Result → Routine α} (hc : ¬ c.WritesStorageClass) (h : RenewsClasses seen s)
    (hf : ∀ r s₁, RenewsClasses seen s₁ → Minds n seen (f r) s₁) : Minds n seen ((Routine.call c).bind f) s :=
  .call h (fun _ _ _ _ hs => .inl (.serves hs hc)) hf

theorem record {x : Sample} {f : Unit → Routine α} (h : Minds n seen (f ()) s) :
    Minds n seen ((Routine.record x).bind f) s := Routine.Keeps.record (fun _ => .refl _ _) h

end Minds

namespace Pass

variable {c : LocalClass}

theorem minds_setStatus (h : RenewsClasses seen s) (c : LocalClass) (status : ClassStatus) :
    Minds n seen (setStatus c status) s := by
  unfold setStatus
  split
  · exact .done h
  · exact .call_done h fun r s₁ s₂ _ hs => .inl (.serves hs id)

theorem minds_abandon (h : RenewsClasses seen s) (c : LocalClass) (e : Fault) : Minds n seen (abandon c e) s := by
  refine Minds.bind ?_ fun e s₁ h₁ => .done h₁
  refine (minds_setStatus h c _).bind fun r s₁ h₁ => ?_
  cases r <;> exact .done h₁

theorem minds_succeed (h : RenewsClasses seen s) (c : LocalClass) : Minds n seen (succeed c) s := by
  refine (minds_setStatus h c _).bind fun r s₁ h₁ => ?_
  cases r <;> exact .done h₁

theorem minds_createClass (h : RenewsClasses seen s) (name : String) (c : LocalClass) (classes : List StorageClass) :
    Minds n seen (createClass name c classes) s := by
  refine .aside id h fun r s₁ h₁ => ?_
  cases r with
  | error e => exact minds_abandon h₁ c _
  | ok inventory =>
    dsimp only
    split
    · exact minds_abandon h₁ c _
    · split
      · exact .done h₁
      · refine .call h₁ (fun r s₂ s₃ _ hs => .inl (.createStorageClass hs)) fun r s₂ h₂ => ?_
        cases r with
        | ok _ => exact minds_succeed h₂ c
        | error e =>
          dsimp only
          split
          · exact .done h₂
          · exact minds_abandon h₂ c e

theorem minds_create (h : RenewsClasses seen s) (c : LocalClass) (classes : List StorageClass) :
    Minds n seen (create c classes) s := by
  unfold create
  split
  · refine .aside id h fun r s₁ h₁ => ?_
    cases r with
    | error e => exact .done h₁
    | ok stored => exact minds_createClass h₁ _ _ _
  · exact minds_createClass h _ _ _

/-- The replacement before a deletion meets what was seen, or fails. -/
theorem minds_deleteClass {current : StorageClass} (hseen : seen.Classified) (h : RenewsClasses seen s)
    (hname : current.metadata.name = some n) (hcurrent : seen.storageClasses.get? n = some current) :
    Minds n seen (deleteClass current) s := by
  unfold deleteClass
  rw [hname, Option.getD_some]
  dsimp only
  by_cases hm : current.isManaged = true
  · have hdelete {s₁ : Cluster} (h₁ : RenewsClasses seen s₁) :
        Minds n seen (Routine.call (.deleteStorageClass n)) s₁ :=
      .call_done h₁ fun r s₂ s₃ _ hs =>
        .inr ⟨⟨_, rfl⟩, fun k hk => get?_of_deleteStorageClass hs hk, current, hcurrent, hm⟩
    simp only [hm, Bool.not_true, Bool.false_eq_true, if_false]
    split
    · refine .call h (fun r s₁ s₂ h₁ hs => .inl (.replaceStorageClass hs fun stored hst hc => ?_)) fun r s₁ h₁ => ?_
      · rw [Resource.key_of_name hname] at hst
        obtain rfl := h₁.2.eq_of_isCurrent hseen.dated hcurrent rfl hst hc
        exact hm
      · cases r with
        | error e => exact .done h₁
        | ok sc => exact hdelete h₁
    · exact hdelete h
  · simp only [Bool.of_not_eq_true hm, Bool.not_false, if_true]
    exact .done h

theorem minds_recreate {current sc : StorageClass} (hseen : seen.Classified) (h : RenewsClasses seen s)
    (hname : current.metadata.name = some n) (hcurrent : seen.storageClasses.get? n = some current) :
    Minds n seen (recreate current sc) s := by
  refine (minds_deleteClass hseen h hname hcurrent).bind fun r s₁ h₁ => ?_
  cases r with
  | error e => exact .done h₁
  | ok u =>
    refine .call h₁ (fun r s₂ s₃ _ hs => .inl (.createStorageClass hs)) fun r s₂ h₂ => ?_
    cases r <;> exact .done h₂

theorem minds_update (hseen : seen.Classified) (h : RenewsClasses seen s) (hn : c.name = n) :
    Minds n seen (update c seen.storageClasses.values) s := by
  refine .aside id h fun r s₁ h₁ => ?_
  cases r with
  | error e => exact minds_abandon h₁ c _
  | ok inventory =>
    dsimp only
    split
    · exact minds_abandon h₁ c _
    · exact minds_succeed h₁ c
    · next current sc hrev =>
      obtain ⟨hcurrent, hname⟩ :=
        (findClass?_values_eq_some_iff hseen.keyed).1 (hn ▸ (isMaterialization_of_revise hrev).1)
      refine (minds_recreate hseen h₁ hname hcurrent).bind fun r s₂ h₂ => ?_
      cases r with
      | error e => exact minds_abandon h₂ c e
      | ok u => exact minds_succeed h₂ c

theorem minds_release (h : RenewsClasses seen s) (c : LocalClass) : Minds n seen (release c) s := by
  unfold release
  split
  · refine .aside id h fun r s₁ h₁ => ?_
    cases r with
    | ok _ => exact .done h₁
    | error e => exact minds_abandon h₁ _ _
  · exact .done h

theorem minds_delete (hseen : seen.Classified) (h : RenewsClasses seen s) (hn : c.name = n) :
    Minds n seen (delete c seen.storageClasses.values) s := by
  unfold delete
  split
  · exact minds_release h c
  · next current hf =>
    split
    · exact minds_release h c
    · obtain ⟨hcurrent, hname⟩ := (findClass?_values_eq_some_iff hseen.keyed).1 (hn ▸ hf)
      refine (minds_deleteClass hseen h hname hcurrent).bind fun r s₁ h₁ => ?_
      cases r with
      | ok u => exact minds_release h₁ c
      | error e => exact minds_abandon h₁ c _

/-- A pass that has just looked at the storage classes. -/
theorem minds_proceed (hseen : seen.Classified) (c : LocalClass) :
    Minds c.name seen (proceed c seen.storageClasses.values) seen := by
  have h : RenewsClasses seen seen := .refl seen
  unfold proceed
  split
  · exact .record (minds_abandon h c _)
  · next flow _ =>
    refine Minds.bind ?_ fun r s₁ h₁ => .record (.done h₁)
    cases flow with
    | create => exact minds_create h c _
    | update => exact minds_update hseen h rfl
    | delete => exact minds_delete hseen h rfl
    | nothing => exact .done h

end Pass

/-! ### Worlds -/

/-- What others do: they create storage classes under names that are not taken, delete storage classes, and do anything
that leaves the storage classes alone. -/
inductive Strangers : Cluster → Cluster → Prop
  | create {s : Cluster} (c : StorageClass) : s.storageClasses.get? (Resource.key c) = none →
    Strangers s (s.answer (.createStorageClass c)).2
  | delete {s : Cluster} (name : String) : Strangers s (s.answer (.deleteStorageClass name)).2
  | aside {s s' : Cluster} : s.version ≤ s'.version → s'.storageClasses = s.storageClasses → Strangers s s'

theorem Strangers.renews (h : Strangers s s') (hs : s.Classified) : RenewsClasses s s' ∧ s'.Classified := by
  cases h with
  | create c _ => exact ⟨.serves (serves_answer s _), hs.serves (serves_answer s _)⟩
  | delete name => exact ⟨.serves (serves_answer s _), hs.serves (serves_answer s _)⟩
  | aside hv he => exact ⟨.of_eq hv he, hs.renews (.of_eq hv he) (he ▸ hs.keyed)⟩

theorem Effect.Served.renews {e : Effect} {r : e.Answer} (h : e.Served s r s') (hs : s.Classified) :
    RenewsClasses s s' ∧ s'.Classified := by
  have hsame (he : s' = s) : RenewsClasses s s' ∧ s'.Classified := by
    subst he
    exact ⟨.refl s', hs⟩
  cases e with
  | call c => exact ⟨.serves h, hs.serves h⟩
  | now => exact hsame h
  | pause ms => exact hsame h
  | record x => exact hsame h

section Worlds

variable {ι : Type} [DecidableEq ι] (classes : ι → LocalClass)

/-- Passes over classes start, run side by side and are given up, among strangers. -/
abbrev Goes : World ι (Except Fault Outcome) → World ι (Except Fault Outcome) → Prop :=
  Relation.ReflTransGen (World.Step Strangers fun i => reconcile (classes i))

/-- Passes and strangers go on, and one pass is under way all the time. -/
abbrev GoesDuring (i : ι) : World ι (Except Fault Outcome) → World ι (Except Fault Outcome) → Prop :=
  Relation.ReflTransGen (World.StepFrom (fun w => w.tasks i ≠ none) Strangers fun i => reconcile (classes i))

/-- A pass has just looked at the storage classes. -/
def Looks (i : ι) (w : World ι (Except Fault Outcome)) : Prop :=
  w.tasks i = some (Pass.proceed (classes i) w.cluster.storageClasses.values)

/-- Where a pass stands: it has not looked at the storage classes, it is done, or it has looked at them in some earlier
world, is under way since, and minds what it has seen. -/
inductive Stands (s : Cluster) (i : ι) (w : World ι (Except Fault Outcome)) : Routine (Except Fault Outcome) → Prop
  | fresh : Stands s i w (reconcile (classes i))
  | ended (a : Except Fault Outcome) : Stands s i w (.done a)
  | looked (w₁ : World ι (Except Fault Outcome)) (t : Routine (Except Fault Outcome)) :
    Goes classes (.idle s) w₁ → GoesDuring classes i w₁ w → Looks classes i w₁ →
    Minds (classes i).name w₁.cluster t w.cluster → Stands s i w t

variable {classes} {w w' : World ι (Except Fault Outcome)} {i : ι} {t : Routine (Except Fault Outcome)}

/-- What others do in time does not matter to where a pass stands. -/
theorem Stands.step (h : Stands classes s i w t) (hi : w.tasks i = some t)
    (hs : World.Step Strangers (fun i => reconcile (classes i)) w w') (hr : RenewsClasses w.cluster w'.cluster) :
    Stands classes s i w' t := by
  cases h with
  | fresh => exact .fresh
  | ended a => exact .ended a
  | looked w₁ t h₁ h₂ hl hm =>
    have hunder : w.tasks i ≠ none := fun h => Option.some_ne_none t (hi.symm.trans h)
    exact .looked w₁ t h₁ (h₂.tail ⟨hs, hunder⟩) hl (hm.may hr)

variable (classes) in
/-- Storage classes carry versions that were given, and it is known where every pass stands. -/
structure Followed (s : Cluster) (w : World ι (Except Fault Outcome)) : Prop where
  classified : w.cluster.Classified
  stands : ∀ i t, w.tasks i = some t → Stands classes s i w t

/-- A step of a pass leads to where it stands next. -/
theorem Stands.next {e : Effect} {next : e.Answer → Routine (Except Fault Outcome)} {r : e.Answer}
    (hw : Goes classes (.idle s) w) (hc : w.cluster.Classified) (h : Stands classes s i w (.ask e next))
    (hi : w.tasks i = some (.ask e next)) (hs : e.Served w.cluster r s') :
    Stands classes s i ⟨s', Function.update w.tasks i (some (next r))⟩ (next r) := by
  have hstep : World.Step Strangers (fun i => reconcile (classes i)) w
      ⟨s', Function.update w.tasks i (some (next r))⟩ := .move hi hs
  cases h with
  | looked w₁ _ h₁ h₂ hl hm =>
    have hunder : w.tasks i ≠ none := fun h => Option.some_ne_none _ (hi.symm.trans h)
    exact .looked w₁ _ h₁ (h₂.tail ⟨hstep, hunder⟩) hl (hm w.cluster r s' (renewing.refl _) trivial hs).2.2
  | fresh =>
    rcases Cluster.Serves.listStorageClasses hs with ⟨⟨e, rfl⟩, -⟩ | ⟨rfl, rfl⟩
    · exact .ended _
    · exact .looked _ _ (hw.tail hstep) .refl (Function.update_self ..) (Pass.minds_proceed hc _)

theorem Followed.step (h : Followed classes s w) (hw : Goes classes (.idle s) w)
    (hs : World.Step Strangers (fun i => reconcile (classes i)) w w') : Followed classes s w' := by
  have hsaved := hs
  cases hs with
  | disturb ho =>
    obtain ⟨hr, hc⟩ := ho.renews h.classified
    exact ⟨hc, fun i t ht => (h.stands i t ht).step ht hsaved hr⟩
  | @start i hidle =>
    refine ⟨h.classified, fun j t ht => ?_⟩
    by_cases hj : j = i
    · subst hj
      simp only [Function.update_self, Option.some.injEq] at ht
      exact ht ▸ .fresh
    · have ht : w.tasks j = some t := by simpa [hj] using ht
      exact (h.stands j t ht).step ht hsaved (.refl _)
  | @leave i =>
    refine ⟨h.classified, fun j t ht => ?_⟩
    by_cases hj : j = i
    · subst hj
      simp at ht
    · have ht : w.tasks j = some t := by simpa [hj] using ht
      exact (h.stands j t ht).step ht hsaved (.refl _)
  | @move i e next r s' hi hserved =>
    obtain ⟨hr, hc⟩ := Effect.Served.renews hserved h.classified
    refine ⟨hc, fun j t ht => ?_⟩
    by_cases hj : j = i
    · subst hj
      simp only [Function.update_self, Option.some.injEq] at ht
      exact ht ▸ (h.stands j _ hi).next hw h.classified hi hserved
    · have ht : w.tasks j = some t := by simpa [hj] using ht
      exact (h.stands j t ht).step ht hsaved hr

theorem Followed.goes (hs : s.Arises) (hw : Goes classes (.idle s) w) : Followed classes s w := by
  induction hw with
  | refl => exact ⟨hs.classified, fun i t ht => by simp [World.idle] at ht⟩
  | tail hw hs ih => exact ih.step hw hs

/-- **Storage classes of someone else.**  Passes over any classes run side by side, among others who create and delete
storage classes.  Every step of a pass leaves each storage class of someone else as it is, with one exception: the
deletion of the storage class of its name, if a managed one was stored there when the same pass has looked, so that the
one of someone else has come in its place while the pass was under way. -/
theorem foreign_class_stays {s : Cluster} (hs : s.Arises) {w : World ι (Except Fault Outcome)}
    (hw : Goes classes (.idle s) w) {i : ι} {e : Effect} {next : e.Answer → Routine (Except Fault Outcome)}
    {r : e.Answer} {s' : Cluster} (hi : w.tasks i = some (.ask e next)) (hserved : e.Served w.cluster r s')
    {k : String} {sc : StorageClass} (hsc : w.cluster.storageClasses.get? k = some sc)
    (hforeign : sc.isManaged = false) :
    s'.storageClasses.get? k = some sc ∨
      e = .call (.deleteStorageClass (classes i).name) ∧ k = (classes i).name ∧
        ∃ w₁ current, Goes classes (.idle s) w₁ ∧ GoesDuring classes i w₁ w ∧ Looks classes i w₁ ∧
          w₁.cluster.storageClasses.get? k = some current ∧ current.isManaged = true := by
  have hfollowed : Followed classes s w := .goes hs hw
  cases hfollowed.stands i _ hi with
  | fresh =>
    exact .inl (LeavesForeign.serves hserved id k sc hsc hforeign)
  | looked w₁ _ h₁ h₂ hl hm =>
    obtain ⟨-, hheeds, -⟩ := hm w.cluster r s' (renewing.refl _) trivial hserved
    rcases hheeds with hleaves | ⟨⟨next', hask⟩, hothers, current, hcurrent, hmanaged⟩
    · exact .inl (hleaves k sc hsc hforeign)
    · by_cases hk : k = (classes i).name
      · subst hk
        cases hask
        exact .inr ⟨rfl, rfl, w₁, current, h₁, h₂, hl, hcurrent, hmanaged⟩
      · exact .inl ((hothers k hk).trans hsc)

end Worlds

/-! ### A storage class that is taken for another -/

/-- A pass that takes a storage class with finalizers away replaces it first, then asks for its deletion. -/
theorem Pass.proceed_of_isBeingDeleted {c : LocalClass} {list : List StorageClass} {current : StorageClass}
    (hdeleted : c.isBeingDeleted = true) (hf : findClass? list c.name = some current) (hm : current.isManaged = true)
    (hany : current.metadata.hasAnyFinalizer Marks.controllerFinalizers = true) :
    ∃ f, Pass.proceed c list = (Routine.call (.replaceStorageClass { current with
        metadata := current.metadata.removeFinalizers Marks.controllerFinalizers })).bind f ∧
      ∀ sc, (f (.ok sc)).AsksDeletion (current.metadata.name.getD "") := by
  have hflow : Finds c list .delete := hdeleted
  unfold Pass.proceed
  rw [identifyFlow_of_finds hflow]
  unfold Pass.run Pass.delete Pass.deleteClass
  simp only [hf, hm, hany, Bool.not_true, Bool.false_eq_true, if_false, if_true]
  exact ⟨_, rfl, fun sc => ⟨_, rfl⟩⟩

namespace Sample

/-- The cluster after the first pass over the class, whose owner deletes it then. -/
def deserted : Cluster := firstPass.2.cluster.intervene (.deleteLocalClass "local")

/-- The class, which is being deleted. -/
def leavingClass : LocalClass := (deserted.localClasses.get? "local").getD localClass

/-- A storage class of someone else. -/
def foreignClass : StorageClass := { metadata := { name := some "local" }, provisioner := "other.csi" }

/-- The storage class that the first pass has created. -/
def ownClass : StorageClass := (deserted.storageClasses.get? "local").getD foreignClass

/-- The storage class without the finalizer of the controller. -/
def bareClass : StorageClass :=
  { ownClass with metadata := ownClass.metadata.removeFinalizers Marks.controllerFinalizers }

/-- The cluster after the finalizer was taken from the storage class. -/
def stripped : Cluster := (deserted.answer (.replaceStorageClass bareClass)).2

/-- The cluster after others have deleted the storage class and have created another one in its place. -/
def usurped : Cluster :=
  ((stripped.answer (.deleteStorageClass "local")).2.answer (.createStorageClass foreignClass)).2

theorem arises_firstPass : firstPass.2.cluster.Arises := by
  rw [firstPass]
  exact Simulation.arises_run (s := { cluster := cluster }) arises_cluster

theorem arises_deserted : deserted.Arises := arises_firstPass.intervene _

theorem usurped_foreign : ∃ sc, usurped.storageClasses.get? "local" = some sc ∧ sc.isManaged = false := by
  have h : ((usurped.storageClasses.get? "local").any fun sc => !sc.isManaged) = true := by decide +kernel
  obtain ⟨sc, hsc, hforeign⟩ := (Option.any_eq_true _ _).1 h
  exact ⟨sc, hsc, by simpa using hforeign⟩

theorem usurped_gone : (usurped.answer (.deleteStorageClass "local")).2.storageClasses.get? "local" = none := by
  have h : ((usurped.answer (.deleteStorageClass "local")).2.storageClasses.get? "local").isNone = true := by
    decide +kernel
  exact Option.isNone_iff_eq_none.1 h

/-- Between two calls of a pass over the class, the storage class that it takes away gives way to one of someone else. -/
theorem goes_usurped : ∃ next, Goes (fun _ => leavingClass) (.idle deserted)
    (.lone usurped (.ask (.call (.deleteStorageClass "local")) next)) := by
  have hfailures : deserted.failures.isEmpty = true := by decide +kernel
  have hstored : deserted.storageClasses.get? "local" = some ownClass := by
    have h : (deserted.storageClasses.get? "local").isSome = true := by decide +kernel
    obtain ⟨sc, hsc⟩ := Option.isSome_iff_exists.1 h
    simp only [ownClass, hsc, Option.getD_some]
  have hname : ownClass.metadata.name = some "local" := by decide +kernel
  have hleaving : leavingClass.name = "local" := by decide +kernel
  obtain ⟨f, hproceed, hask⟩ : ∃ f : Except Fault StorageClass → Routine (Except Fault Outcome),
      Pass.proceed leavingClass deserted.storageClasses.values =
        (Routine.call (.replaceStorageClass bareClass)).bind f ∧ ∀ sc, (f (.ok sc)).AsksDeletion "local" := by
    have hdeleted : leavingClass.isBeingDeleted = true := by decide +kernel
    have hfound : findClass? deserted.storageClasses.values leavingClass.name = some ownClass :=
      hleaving.symm ▸ (findClass?_values_eq_some_iff arises_deserted.tidy.storageClasses).2 ⟨hstored, hname⟩
    have hshape := Pass.proceed_of_isBeingDeleted hdeleted hfound (by decide +kernel) (by decide +kernel)
    rwa [hname, Option.getD_some] at hshape
  have hreplaced : isOk (deserted.answer (.replaceStorageClass bareClass)).1 = true := by decide +kernel
  obtain ⟨sc, hsc⟩ : ∃ sc, (deserted.answer (.replaceStorageClass bareClass)).1 = .ok sc := by
    cases hr : (deserted.answer (.replaceStorageClass bareClass)).1 with
    | error e => simp [hr, isOk] at hreplaced
    | ok sc => exact ⟨sc, rfl⟩
  obtain ⟨next, hnext⟩ := hask sc
  let work : Unit → Routine (Except Fault Outcome) := fun _ => reconcile leavingClass
  have hlist : (deserted.answer .listStorageClasses) = (.ok deserted.storageClasses.values, deserted) :=
    answer_listStorageClasses (List.isEmpty_iff.1 hfailures)
  -- the pass is started, looks at the storage classes, and takes the finalizer away
  have hlook : World.Step Strangers work (.lone deserted (reconcile leavingClass))
      (.lone deserted (Pass.proceed leavingClass deserted.storageClasses.values)) := by
    have hstep : World.Step Strangers work (.lone deserted (reconcile leavingClass)) (.lone _ _) :=
      World.lone_answer Strangers work deserted .listStorageClasses _
    rwa [hlist] at hstep
  have hstrip : World.Step Strangers work (.lone deserted (Pass.proceed leavingClass deserted.storageClasses.values))
      (.lone stripped (.ask (.call (.deleteStorageClass "local")) next)) := by
    have hstep := World.lone_answer Strangers work deserted (.replaceStorageClass bareClass) f
    rwa [hsc, hnext, ← hproceed] at hstep
  refine ⟨next, ?_⟩
  refine ((((Relation.ReflTransGen.single (World.lone_start Strangers work deserted)).tail hlook).tail hstrip).tail
    (.disturb (.delete "local"))).tail (.disturb (.create foreignClass ?_))
  have hgone : ((stripped.answer (.deleteStorageClass "local")).2.storageClasses.get? "local").isNone = true := by
    decide +kernel
  exact Option.isNone_iff_eq_none.1 hgone

end Sample

/-- The pass that takes the storage class of someone else away has seen a managed one under the name. -/
theorem foreign_class_stays_usurped :
    ∃ (w : World Unit (Except Fault Outcome)) (sc : StorageClass),
      Goes (fun _ => Sample.leavingClass) (.idle Sample.deserted) w ∧
      w.cluster.storageClasses.get? "local" = some sc ∧ sc.isManaged = false ∧
      ∃ w₁ current, GoesDuring (fun _ => Sample.leavingClass) () w₁ w ∧ Looks (fun _ => Sample.leavingClass) () w₁ ∧
        w₁.cluster.storageClasses.get? "local" = some current ∧ current.isManaged = true := by
  obtain ⟨next, hw⟩ := Sample.goes_usurped
  obtain ⟨sc, hsc, hforeign⟩ := Sample.usurped_foreign
  refine ⟨_, sc, hw, hsc, hforeign, ?_⟩
  rcases foreign_class_stays Sample.arises_deserted hw (i := ()) rfl
    (serves_answer Sample.usurped (.deleteStorageClass "local")) hsc hforeign with hstays | ⟨-, -, hseen⟩
  · rw [Sample.usurped_gone] at hstays
    simp at hstays
  · obtain ⟨w₁, current, -, hw₁, hlook, hcurrent, hm⟩ := hseen
    exact ⟨w₁, current, hw₁, hlook, hcurrent, hm⟩

/-- A pass takes a storage class of someone else away. -/
theorem foreign_class_is_taken_away :
    ∃ (w : World Unit (Except Fault Outcome)) (e : Effect) (next : e.Answer → Routine (Except Fault Outcome))
      (r : e.Answer) (s' : Cluster) (sc : StorageClass),
      Sample.deserted.Arises ∧ Goes (fun _ => Sample.leavingClass) (.idle Sample.deserted) w ∧
      w.tasks () = some (.ask e next) ∧ e.Served w.cluster r s' ∧
      w.cluster.storageClasses.get? "local" = some sc ∧ sc.isManaged = false ∧
      s'.storageClasses.get? "local" = none := by
  obtain ⟨next, hw⟩ := Sample.goes_usurped
  obtain ⟨sc, hsc, hforeign⟩ := Sample.usurped_foreign
  exact ⟨_, _, next, _, _, sc, Sample.arises_deserted, hw, rfl,
    serves_answer Sample.usurped (.deleteStorageClass "local"), hsc, hforeign, Sample.usurped_gone⟩

end LocalVolumes
