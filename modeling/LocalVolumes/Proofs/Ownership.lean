import LocalVolumes.Proofs.Decision
import LocalVolumes.Proofs.Holding
import LocalVolumes.Proofs.Simulation

/-!
# LocalVolumes.Proofs.Ownership — no storage class is left behind

Passes over classes run side by side with each other, with the owners of the classes and with everyone else.  However
their steps are ordered, wherever calls fail and passes are given up, a managed storage class always has a local class
of its name that carries the finalizer of the controller.  A pass relies on no more than that others leave this as it
is and write no managed storage class of its name; it guarantees that it touches no other name.
-/

namespace LocalVolumes

open Cluster
open Routine (noMatter)

variable {n : String} {s s' : Cluster}

/-! ### Passes -/

/-- A routine that keeps the storage classes owned and touches one name only. -/
def Safe (n : String) {α : Type} (post : α → Cluster → Prop) (t : Routine α) (s : Cluster) : Prop :=
  t.Keeps Owned (spares n) (fun _ => Touches n) post s

variable {α β : Type} {post : α → Cluster → Prop}

theorem Safe.done {a : α} (h : ∀ s₁, (spares n).may s s₁ → post a s₁) : Safe n post (.done a) s :=
  fun s₁ hr _ => h s₁ hr

theorem Safe.bind {t : Routine β} {f : β → Routine α} {q : β → Cluster → Prop} (h : Safe n q t s)
    (hf : ∀ b s₁, Owned s₁ → q b s₁ → Safe n post (f b) s₁) : Safe n post (t.bind f) s :=
  Routine.Keeps.bind h hf

theorem Safe.call {c : Call} {f : c.Result → Routine α}
    (h : ∀ s₁ r s₂, (spares n).may s s₁ → Owned s₁ → s₁.Serves c r s₂ →
      (Owned s₂ ∧ Touches n s₁ s₂) ∧ Safe n post (f r) s₂) :
    Safe n post ((Routine.call c).bind f) s :=
  Routine.Keeps.call fun s₁ r s₂ hr ho hs => and_assoc.1 (h s₁ r s₂ hr ho hs)

theorem Safe.record {x : Sample} {f : Unit → Routine α} (h : Safe n post (f ()) s) :
    Safe n post ((Routine.record x).bind f) s :=
  Routine.Keeps.record (fun _ _ _ => ⟨rfl, rfl⟩) h

/-- A call and nothing after it. -/
theorem Safe.call_done {c : Call} {post : c.Result → Cluster → Prop}
    (h : ∀ s₁ r s₂, (spares n).may s s₁ → Owned s₁ → s₁.Serves c r s₂ →
      (Owned s₂ ∧ Touches n s₁ s₂) ∧ ∀ s₃, (spares n).may s₂ s₃ → post r s₃) :
    Safe n post (Routine.call c) s :=
  Routine.Keeps.call_done fun s₁ r s₂ hr ho hs =>
    ⟨(h s₁ r s₂ hr ho hs).1.1, (h s₁ r s₂ hr ho hs).1.2, fun s₃ hr₃ _ => (h s₁ r s₂ hr ho hs).2 s₃ hr₃⟩

namespace Pass

variable {c : LocalClass}

theorem safe_setStatus (hc : c.metadata.name = some n) (status : ClassStatus) :
    Safe n noMatter (setStatus c status) s := by
  unfold setStatus
  split
  · exact .done fun _ _ => trivial
  · exact .call_done fun s₁ r s₂ _ ho hs =>
      ⟨ho.replaceLocalClassStatus (c := { c with status := some status }) hc hs, fun _ _ => trivial⟩

theorem safe_abandon (hc : c.metadata.name = some n) (e : Fault) : Safe n noMatter (abandon c e) s := by
  refine Safe.bind (q := noMatter) ?_ fun e s₁ _ _ => .done fun _ _ => trivial
  refine (safe_setStatus hc _).bind fun r s₁ _ _ => ?_
  cases r <;> exact .done fun _ _ => trivial

theorem safe_succeed (hc : c.metadata.name = some n) : Safe n noMatter (succeed c) s := by
  refine (safe_setStatus hc _).bind fun r s₁ _ _ => ?_
  cases r <;> exact .done fun _ _ => trivial

/-- The list of the groups, and what follows it. -/
theorem safe_listVolumeGroups {f : Except Fault (List VolumeGroup) → Routine α}
    (h : ∀ r s₁, (spares n).may s s₁ → Safe n post (f r) s₁) :
    Safe n post ((Routine.call .listVolumeGroups).bind f) s := by
  refine .call fun s₁ r s₂ hr ho hs => ?_
  have hrest : s₁.Rests s₂ := by
    rcases hs.listVolumeGroups with hf | ⟨-, rfl⟩
    · exact hf.2
    · exact .refl _
  exact ⟨ho.rests hrest, h r s₂ ((spares n).trans hr hrest.spares)⟩

theorem safe_createClass (hc : c.metadata.name = some n) (classes : List StorageClass) (hh : Held n s) :
    Safe n noMatter (createClass n c classes) s := by
  refine safe_listVolumeGroups fun r s₁ hr => ?_
  have hn : c.name = n := Metadata.nameOrUnknown_of_name hc
  cases r with
  | error e => exact safe_abandon hc _
  | ok inventory =>
    dsimp only
    split
    · exact safe_abandon hc _
    · next desired hd =>
      split
      · exact .done fun _ _ => trivial
      · have hm : IsMaterialization n desired := by
          obtain ⟨bindings, -, hd⟩ := Except.eq_ok_of_bind hd
          exact hn ▸ .of_materialized hd
        refine .call fun s₂ r s₃ hr₂ ho hs => ⟨ho.createStorageClass hm (hr₂.1 (hr.1 hh)) hs, ?_⟩
        cases r with
        | ok _ => exact safe_succeed hc
        | error e =>
          dsimp only
          split
          · exact .done fun _ _ => trivial
          · exact safe_abandon hc e

/-- The finalizer is there before the storage class is. -/
theorem safe_create (hc : c.metadata.name = some n) (classes : List StorageClass)
    (hh : c.hasFinalizer = true → Held n s) : Safe n noMatter (create c classes) s := by
  have hn : c.name = n := Metadata.nameOrUnknown_of_name hc
  cases hf : c.hasFinalizer with
  | true =>
    rw [create_of_hasFinalizer hf, hn]
    exact safe_createClass hc classes (hh hf)
  | false =>
    rw [create_of_not_hasFinalizer hf rfl, hn]
    refine .call fun s₁ r s₂ _ ho hs => ?_
    have hfin : LocalClass.hasFinalizer
        { c with metadata := c.metadata.addFinalizer Marks.controllerFinalizer } = true :=
      Metadata.hasFinalizer_addFinalizer _ _
    obtain ⟨hstep, hr⟩ := ho.replaceLocalClass
      (c := { c with metadata := c.metadata.addFinalizer Marks.controllerFinalizer }) hc (.inr hfin) hs
    refine ⟨hstep, ?_⟩
    cases r with
    | error e => exact .done fun _ _ => trivial
    | ok stored =>
      obtain ⟨hname, hheld⟩ := hr stored rfl
      exact safe_createClass hname classes (hheld hfin)

/-- Taking the managed storage class of a name away: if it succeeds, the class that held it holds nothing. -/
theorem safe_deleteClass {current : StorageClass} (hk : Knows n classes s)
    (hf : findClass? classes n = some current) :
    Safe n (fun r s => r = .ok () → Held n s ∧ Bare n s) (deleteClass current) s := by
  unfold deleteClass
  by_cases hm : current.isManaged = true
  · obtain ⟨hname, hsub, -⟩ := hk.held current hf hm
    have hdelete {s : Cluster} (hst : Stripped n s) (hh : Held n s) :
        Safe n (fun r s => r = .ok () → Held n s ∧ Bare n s)
          (Routine.call (.deleteStorageClass (current.metadata.name.getD ""))) s := by
      rw [hname, Option.getD_some]
      refine .call_done fun s₁ r s₂ hr ho hs => ?_
      obtain ⟨hstep, hheld, hbare⟩ := ho.deleteStorageClass hs
      refine ⟨hstep, fun s₃ hr₃ he => ⟨hr₃.1 (hheld (hr.1 hh)), ?_⟩⟩
      exact (hbare he (hst.may hr)).may hr₃
    simp only [hm, Bool.not_true, Bool.false_eq_true, if_false]
    split
    · refine .call fun s₁ r s₂ hr ho hs => ?_
      have hh : Held n s₁ := ((hk.may hr).held current hf hm).2.2
      let stripped : StorageClass :=
        { current with metadata := current.metadata.removeFinalizers Marks.controllerFinalizers }
      have hname' : stripped.metadata.name = some n := hname
      have hlist := Metadata.finalizerList_removeFinalizers hsub
      obtain ⟨hstep, hheld, hstripped⟩ := ho.replaceStorageClass hname' hlist hh hs
      refine ⟨hstep, ?_⟩
      cases r with
      | error e => exact .done fun _ _ he => by simp at he
      | ok sc => exact hdelete (hstripped sc rfl) hheld
    · next hany =>
      refine hdelete ?_ (hk.held current hf hm).2.2
      intro sc' hsc' hm'
      obtain ⟨sc, hsc, -, hfl⟩ := hk.like sc' hsc' hm'
      rw [hf, Option.some.injEq] at hsc
      rw [← hfl, ← hsc]
      exact Metadata.finalizerList_of_hasAnyFinalizer hsub (Bool.of_not_eq_true hany)
  · simp only [Bool.of_not_eq_true hm, Bool.not_false, if_true]
    exact .done fun _ _ he => by simp at he

theorem safe_recreate {current sc : StorageClass} (hk : Knows n classes s)
    (hf : findClass? classes n = some current) (hsc : IsMaterialization n sc) :
    Safe n noMatter (recreate current sc) s := by
  refine (safe_deleteClass hk hf).bind fun r s₁ _ hmid => ?_
  cases r with
  | error e => exact .done fun _ _ => trivial
  | ok u =>
    refine .call fun s₂ r s₃ hr ho hs => ⟨ho.createStorageClass hsc (hr.1 (hmid rfl).1) hs, ?_⟩
    cases r <;> exact .done fun _ _ => trivial

theorem safe_update (hc : c.metadata.name = some n) (hk : Knows n classes s) :
    Safe n noMatter (update c classes) s := by
  refine safe_listVolumeGroups fun r s₁ hr => ?_
  cases r with
  | error e => exact safe_abandon hc _
  | ok inventory =>
    dsimp only
    split
    · exact safe_abandon hc _
    · exact safe_succeed hc
    · next current sc hrev =>
      have hn : c.name = n := Metadata.nameOrUnknown_of_name hc
      obtain ⟨hf, hsc⟩ := isMaterialization_of_revise hrev
      rw [hn] at hf hsc
      refine (safe_recreate (hk.may hr) hf hsc).bind fun r s₁ _ _ => ?_
      cases r with
      | error e => exact safe_abandon hc e
      | ok u => exact safe_succeed hc

/-- The finalizer goes only when there is nothing to be held. -/
theorem safe_release (hc : c.metadata.name = some n) (hb : Bare n s) : Safe n noMatter (release c) s := by
  unfold release LocalClass.removeFinalizer
  split
  · next released hrel =>
    obtain ⟨rfl, -⟩ := Prod.mk.injEq _ _ _ _ ▸ hrel
    refine .call fun s₁ r s₂ hr ho hs => ?_
    refine ⟨(ho.replaceLocalClass (c := { c with
      metadata := c.metadata.removeFinalizers Marks.controllerFinalizers }) hc (.inl (hb.may hr)) hs).1, ?_⟩
    cases r with
    | ok _ => exact .done fun _ _ => trivial
    | error e => exact safe_abandon (c := { c with
        metadata := c.metadata.removeFinalizers Marks.controllerFinalizers }) hc _
  · exact .done fun _ _ => trivial

theorem safe_delete (hc : c.metadata.name = some n) (hk : Knows n classes s) :
    Safe n noMatter (delete c classes) s := by
  have hn : c.name = n := Metadata.nameOrUnknown_of_name hc
  unfold delete
  rw [hn]
  split
  · next hf => exact safe_release hc (hk.bare fun sc hsc => by simp [hf] at hsc)
  · next current hf =>
    by_cases hm : current.isManaged = true
    · simp only [hm, Bool.not_true, Bool.false_eq_true, if_false]
      refine (safe_deleteClass hk hf).bind fun r s₁ _ hmid => ?_
      cases r with
      | error e => exact safe_abandon hc _
      | ok u => exact safe_release hc (hmid rfl).2
    · simp only [Bool.of_not_eq_true hm, Bool.not_false, if_true]
      refine safe_release hc (hk.bare fun sc hsc => ?_)
      rw [hf, Option.some.injEq] at hsc
      exact hsc ▸ Bool.of_not_eq_true hm

end Pass

/-- A pass over a class that was just read. -/
theorem safe_reconcile {c : LocalClass} (hc : c.metadata.name = some n)
    (hh : c.hasFinalizer = true → Held n s) : Safe n noMatter (reconcile c) s := by
  refine .call fun s₁ r s₂ hr ho hs => ?_
  rcases hs.listStorageClasses with ⟨⟨e, rfl⟩, hrest⟩ | ⟨rfl, rfl⟩
  · exact ⟨ho.rests hrest, .done fun _ _ => trivial⟩
  · refine ⟨⟨ho, fun _ _ => ⟨rfl, rfl⟩⟩, ?_⟩
    have hk := ho.knows n
    dsimp only
    split
    · exact .record (Pass.safe_abandon hc _)
    · next flow _ =>
      refine Safe.bind (q := noMatter) ?_ fun r s₃ _ _ => .record (.done fun _ _ => trivial)
      cases flow with
      | create => exact Pass.safe_create hc _ fun hf => hr.1 (hh hf)
      | update => exact Pass.safe_update hc hk
      | delete => exact Pass.safe_delete hc hk
      | nothing => exact .done fun _ _ => trivial

theorem safe_reconcileNamed (interval : Nat) (n : String) (s : Cluster) :
    Safe n noMatter (reconcileNamed interval n) s := by
  refine .call fun s₁ r s₂ hr ho hs => ?_
  rcases hs.getLocalClass with ⟨⟨e, rfl⟩, hrest⟩ | ⟨rfl, rfl⟩
  · exact ⟨ho.rests hrest, .done fun _ _ => trivial⟩
  · refine ⟨⟨ho, fun _ _ => ⟨rfl, rfl⟩⟩, ?_⟩
    split
    · next he => simp at he
    · exact .done fun _ _ => trivial
    · next c hc =>
      simp only [Except.ok.injEq] at hc
      refine (safe_reconcile (ho.named n c hc) fun hf => ⟨c, hc, hf⟩).bind fun r s₃ _ _ => ?_
      split <;> exact .done fun _ _ => trivial

/-! ### Worlds -/

/-- Passes over different names fit together. -/
theorem fits_reconcileNamed (interval : Nat) :
    World.Fits Meanwhile (reconcileNamed interval) Owned spares (fun n _ => Touches n) (fun _ => noMatter) where
  disturbed h hs := h.meanwhile hs
  moved hne _ _ hg := hg.spares hne
  started n s _ := safe_reconcileNamed interval n s

/-- **No storage class is left behind.**  Passes start, run side by side and are given up, at most one for each name;
others do what they do meanwhile.  In every world that is reached from a cluster without managed storage classes, a
managed storage class has a local class of its name that carries the finalizer of the controller.

That the classes at the beginning have the names that they are stored under (`hnamed`) is no restriction: the server
that holds them keeps no object without a name, and each under its own. -/
theorem held_of_isManaged {interval : Nat} {s : Cluster} (hs : s.Arises)
    (hnamed : ∀ n c, s.localClasses.get? n = some c → c.metadata.name = some n)
    (hbare : ∀ n sc, s.storageClasses.get? n = some sc → sc.isManaged = false)
    {w : World String (Except Fault Requeue)}
    (hw : Relation.ReflTransGen (World.Step Meanwhile (reconcileNamed interval)) (World.idle s) w)
    {n : String} {sc : StorageClass} (hsc : w.cluster.storageClasses.get? n = some sc)
    (hm : sc.isManaged = true) :
    sc.metadata.name = some n ∧
      ∃ c, w.cluster.localClasses.get? n = some c ∧ c.metadata.name = some n ∧ c.hasFinalizer = true := by
  have howned : Owned s :=
    ⟨hs.tidy.storageClasses, hnamed, fun n sc hsc hm => absurd ((hbare n sc hsc).symm.trans hm) Bool.false_ne_true⟩
  have hsound := (World.Sound.idle howned).reaches (fits_reconcileNamed interval) hw
  obtain ⟨hname, -, c, hc, hf⟩ := hsound.holds.managed n sc hsc hm
  exact ⟨hname, c, hc, hsound.holds.named n c hc, hf⟩

/-- The first pass over a class leaves a managed storage class, and the class holds it. -/
theorem held_of_isManaged_first_pass :
    ∃ w : World String (Except Fault Requeue),
      Relation.ReflTransGen (World.Step Meanwhile (reconcileNamed 10000)) (World.idle Sample.cluster) w ∧
        ∃ sc, w.cluster.storageClasses.get? "local" = some sc ∧ sc.isManaged = true ∧
          sc.metadata.name = some "local" ∧
            ∃ c, w.cluster.localClasses.get? "local" = some c ∧ c.metadata.name = some "local" ∧
              c.hasFinalizer = true := by
  let run := Simulation.run .ofRoutine [] (reconcileNamed 10000 "local") { cluster := Sample.cluster } 0
  let w : World String (Except Fault Requeue) :=
    ⟨run.2.cluster, Function.update (Function.update (fun _ => none) "local" (some (reconcileNamed 10000 "local")))
      "local" (some (.done run.1))⟩
  have hw : Relation.ReflTransGen (World.Step Meanwhile (reconcileNamed 10000)) (World.idle Sample.cluster) w :=
    .head (.start (i := "local") rfl) (World.reaches_run _ (fun _ _ h => by simp at h) .ofRoutine
      (reconcileNamed 10000 "local") { cluster := Sample.cluster } 0 rfl (by simp))
  have hsome : (run.2.cluster.storageClasses.get? "local").isSome = true := by decide +kernel
  obtain ⟨sc, hsc⟩ := Option.isSome_iff_exists.1 hsome
  have hm : (run.2.cluster.storageClasses.get? "local").all (·.isManaged) = true := by decide +kernel
  rw [hsc, Option.all_some] at hm
  exact ⟨w, hw, sc, hsc, hm, held_of_isManaged Sample.arises_cluster Sample.named_cluster
    (fun n sc h => by simp [Sample.cluster, intervene, bump] at h) hw hsc hm⟩

end LocalVolumes
