import LocalVolumes.Proofs.Cluster.Identity
import LocalVolumes.Proofs.Decision
import LocalVolumes.Proofs.Interference
import LocalVolumes.Proofs.Simulation

/-!
# LocalVolumes.Proofs.Annotations — annotations that others have put on a storage class

A storage class that has drifted is taken away and made anew, with the annotations that others have put on the old one.
Between the two it is gone, and with it what was known of its annotations: if the new one cannot be made then, the next
pass makes one from the class alone.  So an annotation lasts through any passes of which none leaves the name without a
storage class.
-/

namespace LocalVolumes

open Cluster

/-- A managed storage class of a name that bears an annotation. -/
structure Annotated (n k v : String) (sc : StorageClass) : Prop where
  name : sc.metadata.name = some n
  managed : sc.isManaged = true
  annotation : sc.metadata.annotations.bind (·.get? k) = some v

instance (n k v : String) (sc : StorageClass) : Decidable (Annotated n k v sc) :=
  decidable_of_iff (sc.metadata.name = some n ∧ sc.isManaged = true ∧
      sc.metadata.annotations.bind (·.get? k) = some v)
    ⟨fun h => ⟨h.1, h.2.1, h.2.2⟩, fun h => ⟨h.name, h.managed, h.annotation⟩⟩

/-- The storage class of a name is there, is managed, and bears an annotation. -/
def Bears (n k v : String) (s : Cluster) : Prop := ∃ sc, s.storageClasses.get? n = some sc ∧ Annotated n k v sc

instance (n k v : String) (s : Cluster) : Decidable (Bears n k v s) :=
  decidable_of_iff ((s.storageClasses.get? n).any fun sc => decide (Annotated n k v sc)) <| by
    simp [Bears, Option.any_eq_true]

/-- The storage class of a name bears the annotation, if it is there. -/
def BearsIfStored (n k v : String) (s : Cluster) : Prop :=
  ∀ sc, s.storageClasses.get? n = some sc → Annotated n k v sc

/-- What others may do: anything but take the annotation or the storage class away, or put a storage class without the
annotation in its place. -/
def tending (n k v : String) : Rely where
  may s s' := Run s s' ∧ (Bears n k v s → Bears n k v s') ∧ (BearsIfStored n k v s → BearsIfStored n k v s')
  refl _ := ⟨.refl, id, id⟩
  trans h h' := ⟨h.1.trans h'.1, h'.2.1 ∘ h.2.1, h'.2.2 ∘ h.2.2⟩

/-- A state that a cluster comes to, in which the storage class of a name bears the annotation if it is there. -/
structure Tended (n k v : String) (s : Cluster) : Prop where
  arises : s.Arises
  bears : BearsIfStored n k v s

variable {n k v : String} {c : LocalClass} {sc current : StorageClass} {s s' seen : Cluster} {α β : Type}

theorem Bears.ifStored (h : Bears n k v s) : BearsIfStored n k v s := by
  obtain ⟨sc, hsc, ha⟩ := h
  intro sc' hsc'
  exact Option.some.inj (hsc.symm.trans hsc') ▸ ha

theorem BearsIfStored.of_stored (h : BearsIfStored n k v s) (hsc : s.storageClasses.get? n ≠ none) : Bears n k v s := by
  obtain ⟨sc, hstored⟩ := Option.ne_none_iff_exists'.1 hsc
  exact ⟨sc, hstored, h sc hstored⟩

theorem tending_of_eq (hr : Run s s') (h : s'.storageClasses = s.storageClasses) : (tending n k v).may s s' :=
  ⟨hr, fun ⟨sc, hsc, ha⟩ => ⟨sc, h ▸ hsc, ha⟩, fun ha sc hsc => ha sc (h ▸ hsc)⟩

theorem Tended.may (h : Tended n k v s) (hr : (tending n k v).may s s') : Tended n k v s' :=
  ⟨hr.1.arises h.arises, hr.2.2 h.bears⟩

/-! ### Storage classes that bear an annotation -/

theorem Annotated.stamped (h : Annotated n k v sc) (version : String) (deleted : Option Timestamp) :
    Annotated n k v (stamped sc version deleted) := ⟨h.name, h.managed, h.annotation⟩

theorem Annotated.removeFinalizers (h : Annotated n k v sc) (fs : List String) :
    Annotated n k v { sc with metadata := sc.metadata.removeFinalizers fs } := ⟨h.name, h.managed, h.annotation⟩

/-- The annotations of one storage class come to another where that has none itself. -/
theorem Materialization.get?_keepAnnotations (sc current : StorageClass) (k : String) :
    (keepAnnotations sc current).metadata.annotations.bind (·.get? k) =
      (sc.metadata.annotations.bind (·.get? k)).or (current.metadata.annotations.bind (·.get? k)) := by
  unfold keepAnnotations
  cases current.metadata.annotations with
  | none => simp
  | some old =>
    have hlookup : old.toList.lookup k = old.get? k := rfl
    cases ha : sc.metadata.annotations with
    | none => simp [addMissing, NameMap.get?_foldl_insertIfNew, hlookup]
    | some own => simp [addMissing, NameMap.get?_foldl_insertIfNew, hlookup]

/-- What takes the place of a storage class bears its annotations, but for the one that it has itself. -/
theorem Annotated.replacement (h : Annotated n k v current) (hk : k ≠ Marks.snapshotClassKey) (hn : c.name = n)
    {bindings : List Binding} (hsc : replacement c bindings current = .ok sc) : Annotated n k v sc := by
  have hmade : IsMaterialization c.name sc := .of_replacement hsc
  refine ⟨hn ▸ hmade.name, hmade.isManaged, ?_⟩
  obtain ⟨lvm, -, rfl⟩ := replacement_eq_ok hsc
  rw [Materialization.get?_keepAnnotations, h.annotation]
  simp [Materialization.storageClass, NameMap.get?_insert, hk]

/-! ### Calls -/

theorem Tended.createStorageClass (h : Tended n k v s) (hsc : Annotated n k v sc) {r : Except Fault StorageClass}
    (hs : s.Serves (.createStorageClass sc) r s') : Tended n k v s' ∧ (isOk r = true → Bears n k v s') := by
  have hkey : Resource.key sc = n := Resource.key_of_name hsc.name
  rcases hs.createStorageClass with ⟨⟨e, rfl⟩, hrest⟩ | ⟨-, rfl, he⟩
  · exact ⟨h.may (tending_of_eq hs.run hrest.storageClasses), fun hok => by cases hok⟩
  · have hbears : Bears n k v s' := by
      rw [he, hkey]
      exact ⟨_, (NameMap.get?_insert ..).trans (if_pos rfl), hsc.stamped _ _⟩
    exact ⟨⟨hs.run.arises h.arises, hbears.ifStored⟩, fun _ => hbears⟩

theorem Tended.replaceStorageClass (h : Tended n k v s) (hsc : Annotated n k v sc) {r : Except Fault StorageClass}
    (hs : s.Serves (.replaceStorageClass sc) r s') : Tended n k v s' := by
  have hkey : Resource.key sc = n := Resource.key_of_name hsc.name
  refine ⟨hs.run.arises h.arises, fun sc' hsc' => ?_⟩
  rcases hs.replaceStorageClass with ⟨-, hrest⟩ | ⟨stored, -, -, -, rfl⟩
  · exact h.bears sc' (hrest.storageClasses ▸ hsc')
  · rw [hkey] at hsc'
    exact get?_settled_self hsc' ▸ hsc.stamped _ _

theorem Tended.deleteStorageClass (h : Tended n k v s) {r : Except Fault Unit}
    (hs : s.Serves (.deleteStorageClass n) r s') : Tended n k v s' := by
  refine ⟨hs.run.arises h.arises, fun sc' hsc' => ?_⟩
  rcases hs.deleteStorageClass with ⟨-, hrest⟩ | ⟨-, rfl⟩
  · exact h.bears sc' (hrest.storageClasses ▸ hsc')
  · obtain ⟨sc, hsc, -, ⟨-, rfl⟩ | ⟨-, rfl⟩⟩ := get?_markDeleted_self hsc'
    · exact h.bears _ hsc
    · exact (h.bears _ hsc).stamped _ _

/-! ### Passes -/

/-- A routine that takes the annotation from no storage class of the name, among others who do not either. -/
def Tends (n k v : String) (post : α → Cluster → Prop) (t : Routine α) (s : Cluster) : Prop :=
  t.Keeps (Tended n k v) (tending n k v) (fun _ _ _ => True) post s

/-- If a pass is done, the storage class is there and bears the annotation. -/
def BearsIfDone (n k v : String) (r : Except Fault Outcome) (s : Cluster) : Prop := r = .ok .done → Bears n k v s

namespace Tends

variable {post : α → Cluster → Prop}

theorem done {a : α} (h : ∀ s', (tending n k v).may s s' → post a s') : Tends n k v post (.done a) s :=
  fun s' hr _ => h s' hr

theorem bind {t : Routine β} {f : β → Routine α} {q : β → Cluster → Prop} (h : Tends n k v q t s)
    (hf : ∀ b s', q b s' → Tends n k v post (f b) s') : Tends n k v post (t.bind f) s :=
  Routine.Keeps.bind h fun b s' _ => hf b s'

theorem call {w : Call} {f : w.Result → Routine α}
    (h : ∀ s₁ r s₂, (tending n k v).may s s₁ → Tended n k v s₁ → s₁.Serves w r s₂ →
      Tended n k v s₂ ∧ Tends n k v post (f r) s₂) : Tends n k v post ((Routine.call w).bind f) s :=
  Routine.Keeps.call fun s₁ r s₂ hr ht hs => ⟨(h s₁ r s₂ hr ht hs).1, trivial, (h s₁ r s₂ hr ht hs).2⟩

/-- A call that leaves the storage classes alone, and what follows it. -/
theorem aside {w : Call} {f : w.Result → Routine α} (hw : ¬ w.WritesStorageClass)
    (hf : ∀ r s', (tending n k v).may s s' → Tends n k v post (f r) s') : Tends n k v post ((Routine.call w).bind f) s :=
  .call fun s₁ r s₂ hr ht hs =>
    have hr₂ : (tending n k v).may s₁ s₂ := tending_of_eq hs.run (hs.frame.storageClasses hw)
    ⟨ht.may hr₂, hf r s₂ ((tending n k v).trans hr hr₂)⟩

theorem record {x : Sample} {f : Unit → Routine α} (h : Tends n k v post (f ()) s) :
    Tends n k v post ((Routine.record x).bind f) s := Routine.Keeps.record (fun _ => trivial) h

end Tends

namespace Pass

theorem tends_setStatus (c : LocalClass) (status : ClassStatus) (s : Cluster) :
    Tends n k v (fun _ => (tending n k v).may s) (setStatus c status) s := by
  unfold setStatus
  split
  · exact .done fun s' hr => hr
  · rw [← Routine.bind_pure_right (Routine.call _)]
    exact .aside id fun r s₁ hr₁ => .done fun s₂ hr₂ => (tending n k v).trans hr₁ hr₂

theorem tends_abandon (c : LocalClass) (e : Fault) (s : Cluster) : Tends n k v (BearsIfDone n k v) (abandon c e) s := by
  refine Tends.bind (q := fun _ _ => True) ?_ fun e' s₁ _ => .done fun s₂ _ he => by cases he
  refine (tends_setStatus c _ s).bind fun r s₁ _ => ?_
  cases r <;> exact .done fun s₂ _ => trivial

theorem tends_succeed (h : Bears n k v s) (c : LocalClass) : Tends n k v (BearsIfDone n k v) (succeed c) s := by
  refine (tends_setStatus c .created s).bind fun r s₁ hr₁ => ?_
  cases r with
  | error e => exact .done fun s₂ _ he => by cases he
  | ok c' => exact .done fun s₂ hr₂ _ => hr₂.2.1 (hr₁.2.1 h)

theorem tends_deleteClass (h : Annotated n k v current) (s : Cluster) :
    Tends n k v (fun _ _ => True) (deleteClass current) s := by
  have hdelete (s : Cluster) : Tends n k v (fun _ _ => True) (Routine.call (.deleteStorageClass n)) s := by
    rw [← Routine.bind_pure_right (Routine.call _)]
    exact .call fun s₁ r s₂ _ ht hs => ⟨ht.deleteStorageClass hs, .done fun _ _ => trivial⟩
  unfold deleteClass
  rw [h.name, Option.getD_some]
  simp only [h.managed, Bool.not_true, Bool.false_eq_true, if_false]
  split
  · refine .call fun s₁ r s₂ _ ht hs => ⟨ht.replaceStorageClass (h.removeFinalizers _) hs, ?_⟩
    cases r with
    | error e => exact .done fun _ _ => trivial
    | ok stripped => exact hdelete s₂
  · exact hdelete s

/-- One storage class gives way to another, or the pass does not succeed. -/
theorem tends_recreate (h : Annotated n k v current) (hsc : Annotated n k v sc) (s : Cluster) :
    Tends n k v (fun r s' => isOk r = true → Bears n k v s') (recreate current sc) s := by
  refine (tends_deleteClass h s).bind fun r s₁ _ => ?_
  cases r with
  | error e => exact .done fun s₂ _ he => by cases he
  | ok u =>
    -- the storage class may be gone by now, and only the new one is known to bear the annotation
    refine .call fun s₂ r s₃ _ ht hs => ?_
    obtain ⟨ht₃, hb⟩ := ht.createStorageClass hsc hs
    refine ⟨ht₃, ?_⟩
    cases r with
    | error e => exact .done fun s₄ _ he => by cases he
    | ok sc' => exact .done fun s₄ hr₄ _ => hr₄.2.1 (hb rfl)

theorem tends_update (h : Bears n k v s) (hk : k ≠ Marks.snapshotClassKey) (hn : c.name = n)
    (hseen : Bears n k v seen) (hkeyed : Keyed seen.storageClasses) :
    Tends n k v (BearsIfDone n k v) (update c seen.storageClasses.values) s := by
  refine .aside id fun r s₁ hr₁ => ?_
  have h₁ : Bears n k v s₁ := hr₁.2.1 h
  cases r with
  | error e => exact tends_abandon c _ s₁
  | ok inventory =>
    dsimp only
    split
    · exact tends_abandon c _ s₁
    · exact tends_succeed h₁ c
    · next current sc hrevise =>
      obtain ⟨bindings, -, hfind, ⟨hnone, -⟩ | ⟨sc', hsome, -, hsc⟩⟩ := revise_eq_ok_iff.1 hrevise
      · cases hnone
      obtain rfl := Option.some.inj hsome
      have hcurrent : Annotated n k v current :=
        hseen.ifStored current (hn ▸ ((findClass?_values_eq_some_iff hkeyed).1 hfind).1)
      refine (tends_recreate hcurrent (hcurrent.replacement hk hn hsc) s₁).bind fun r s₂ hb => ?_
      cases r with
      | error e => exact tends_abandon c e s₂
      | ok u => exact tends_succeed (hb rfl) c

/-- A pass over a class that is not being deleted, which has just seen the storage class. -/
theorem tends_proceed (hk : k ≠ Marks.snapshotClassKey) (hn : c.name = n) (hlive : c.isBeingDeleted = false)
    (hseen : Bears n k v seen) (hkeyed : Keyed seen.storageClasses) :
    Tends n k v (BearsIfDone n k v) (proceed c seen.storageClasses.values) seen := by
  obtain ⟨current, hstored, hcurrent⟩ := hseen
  have hfound : findClass? seen.storageClasses.values c.name = some current :=
    (findClass?_values_eq_some_iff hkeyed).2 ⟨hn.symm ▸ hstored, hn.symm ▸ hcurrent.name⟩
  unfold proceed
  split
  · exact .record (tends_abandon c _ seen)
  · next flow hflow =>
    refine Tends.bind (q := BearsIfDone n k v) ?_ fun r s₁ hb => .record (.done fun s₂ hr hd => hr.2.1 (hb hd))
    have hfinds := finds_of_identifyFlow hflow
    cases flow with
    | create =>
      -- a new storage class is made only where none was seen
      exact absurd (hfinds.2.symm.trans hfound) (by simp)
    | update => exact tends_update ⟨current, hstored, hcurrent⟩ hk hn ⟨current, hstored, hcurrent⟩ hkeyed
    | delete => exact absurd (hlive.symm.trans hfinds) Bool.false_ne_true
    | nothing => exact .done fun s₁ hr _ => hr.2.1 ⟨current, hstored, hcurrent⟩

end Pass

theorem tends_reconcile (h : Bears n k v s) (hk : k ≠ Marks.snapshotClassKey) (hn : c.name = n)
    (hlive : c.isBeingDeleted = false) : Tends n k v (BearsIfDone n k v) (reconcile c) s := by
  rw [Pass.reconcile_eq]
  refine .call fun s₁ r s₂ hr ht hs => ?_
  have h₁ : Bears n k v s₁ := hr.2.1 h
  rcases hs.listStorageClasses with ⟨⟨e, rfl⟩, hrest⟩ | ⟨rfl, rfl⟩
  · exact ⟨ht.may (tending_of_eq hs.run hrest.storageClasses), .done fun s₃ _ he => by cases he⟩
  · exact ⟨ht, Pass.tends_proceed hk hn hlive h₁ ht.arises.tidy.storageClasses⟩

/-! ### Runs of passes -/

/-- Passes over classes of a name that are not being deleted follow each other, among others who leave the annotation
alone.  Each is run to its end or given up before, and none leaves the name without a storage class. -/
inductive Passes (n k v : String) (s : Cluster) : Cluster → Prop
  | refl : Passes n k v s s
  | others {s₁ s₂ : Cluster} : Passes n k v s s₁ → (tending n k v).may s₁ s₂ → Passes n k v s s₂
  | pass {s₁ s₂ : Cluster} {c : LocalClass} {t : Routine (Except Fault Outcome)} : Passes n k v s s₁ → c.name = n →
    c.isBeingDeleted = false → (reconcile c).Progress (tending n k v) s₁ t s₂ → s₂.storageClasses.get? n ≠ none →
    Passes n k v s s₂

theorem Passes.bears (h : Passes n k v s s') (hs : s.Arises) (hb : Bears n k v s) (hk : k ≠ Marks.snapshotClassKey) :
    s'.Arises ∧ Bears n k v s' := by
  induction h with
  | refl => exact ⟨hs, hb⟩
  | others _ hr ih => exact ⟨hr.1.arises ih.1, hr.2.1 ih.2⟩
  | pass _ hn hlive hrun hstored ih =>
    -- where the pass has stopped, the storage class bears the annotation or is gone; and it is not gone
    obtain ⟨ht, -⟩ := Routine.Keeps.progress (tends_reconcile ih.2 hk hn hlive) ⟨ih.1, ih.2.ifStored⟩
      (fun _ _ ht hr => ht.may hr) hrun
    exact ⟨ht.arises, ht.bears.of_stored hstored⟩

/-- **An annotation survives.**  Someone has put an annotation on the managed storage class of a name, other than the
one that names the snapshot class.  Passes over classes of the name follow each other, whatever is changed in the class
and in the groups, and wherever calls fail; nobody else takes the annotation or the storage class away, and no pass
leaves the name without a storage class.  After every pass that is done, the storage class bears the annotation. -/
theorem annotation_survives {s s₁ s₂ : Cluster} {n k v : String} {c : LocalClass} (hs : s.Arises)
    (hk : k ≠ Marks.snapshotClassKey) (hb : Bears n k v s) (hbefore : Passes n k v s s₁) (hn : c.name = n)
    (hlive : c.isBeingDeleted = false)
    (hpass : (reconcile c).Progress (tending n k v) s₁ (.done (.ok .done)) s₂) : Bears n k v s₂ := by
  obtain ⟨hs₁, hb₁⟩ := hbefore.bears hs hb hk
  obtain ⟨ht, hdone⟩ := Routine.Keeps.progress (tends_reconcile hb₁ hk hn hlive) ⟨hs₁, hb₁.ifStored⟩
    (fun _ _ ht hr => ht.may hr) hpass
  exact hdone s₂ ((tending n k v).refl s₂) ht rfl

namespace Sample

/-- The storage class of the class, on which someone has put an annotation. -/
def annotatedClass : StorageClass :=
  let sc := (buildStorageClass? localClass [⟨"vg-1", none⟩]).getD { metadata := {}, provisioner := "" }
  { sc with metadata := { sc.metadata with annotations := sc.metadata.annotations.map (·.insert "team" "storage") } }

/-- The cluster with that storage class. -/
def annotatedCluster : Cluster := cluster.intervene (.putStorageClass annotatedClass)

/-- The class with another cleanup of its volumes, so that the storage class has drifted. -/
def revisedClass : LocalClass :=
  { localClass with spec := { localClass.spec with
    lvm := localClass.spec.lvm.map fun lvm => { lvm with volumeCleanup := some "Discard" } } }

/-- The cluster after the owner has put the class there, where an operation fails once. -/
def revisedCluster (op : Operation) : Cluster :=
  (annotatedCluster.intervene (.putLocalClass revisedClass)).intervene (.planFailure op (.internal "unreachable"))

/-- The class as it is stored in a cluster. -/
def classIn (s : Cluster) : LocalClass := (s.localClasses.get? "local").getD localClass

/-- A pass over the class of a cluster. -/
@[irreducible] def passOver (s : Cluster) : Except Fault Outcome × Simulation :=
  Simulation.run .ofRoutine [] (reconcile (classIn s)) { cluster := s } 0

/-- The cluster after a pass over its class. -/
def passedOver (s : Cluster) : Cluster := (passOver s).2.cluster

theorem progress_passOver (R : Rely) {s : Cluster} {r : Except Fault Outcome} (h : (passOver s).1 = r) :
    (reconcile (classIn s)).Progress R s (.done r) (passedOver s) := by
  rw [passedOver, ← h, passOver]
  exact Simulation.progress_run R .ofRoutine _ { cluster := s } 0

theorem exists_passOver_eq_error {s : Cluster} (h : isOk (passOver s).1 = false) : ∃ e, (passOver s).1 = .error e := by
  cases hr : (passOver s).1 with
  | error e => exact ⟨e, rfl⟩
  | ok o => simp [hr, isOk] at h

theorem arises_annotatedCluster : annotatedCluster.Arises := arises_cluster.intervene _

/-- What the owner does leaves the storage classes alone. -/
theorem tending_revisedCluster (op : Operation) :
    (tending "local" "team" "storage").may annotatedCluster (revisedCluster op) := by
  refine tending_of_eq ?_ rfl
  exact (Relation.ReflTransGen.single (.intervene _ _)).tail (.intervene _ _)

end Sample

/-- The owner revises the class, a pass fails before it has taken the storage class away, and the next one replaces it. -/
theorem annotation_survives_revision :
    Bears "local" "team" "storage" Sample.annotatedCluster ∧
      (∃ e, (Sample.passOver (Sample.revisedCluster .listVolumeGroups)).1 = .error e) ∧
      (Sample.passOver (Sample.passedOver (Sample.revisedCluster .listVolumeGroups))).1 = .ok .done ∧
      Bears "local" "team" "storage"
        (Sample.passedOver (Sample.passedOver (Sample.revisedCluster .listVolumeGroups))) := by
  let s := Sample.revisedCluster .listVolumeGroups
  have hbears : Bears "local" "team" "storage" Sample.annotatedCluster := by decide +kernel
  have hclass : (Sample.classIn s).name = "local" ∧ (Sample.classIn s).isBeingDeleted = false := by decide +kernel
  -- both passes are run once for all that is read off them
  obtain ⟨hfails, hstays, hname, hlive, hsucceeds⟩ : isOk (Sample.passOver s).1 = false ∧
      ((Sample.passedOver s).storageClasses.get? "local").isSome = true ∧
      (Sample.classIn (Sample.passedOver s)).name = "local" ∧
      (Sample.classIn (Sample.passedOver s)).isBeingDeleted = false ∧
      (Sample.passOver (Sample.passedOver s)).1.toOption = some .done := by decide +kernel
  obtain ⟨e, he⟩ : ∃ e, (Sample.passOver s).1 = .error e := Sample.exists_passOver_eq_error hfails
  have hdone : (Sample.passOver (Sample.passedOver s)).1 = .ok .done := Except.eq_ok_of_toOption hsucceeds
  have hbefore : Passes "local" "team" "storage" Sample.annotatedCluster (Sample.passedOver s) :=
    .pass (.others .refl (Sample.tending_revisedCluster .listVolumeGroups)) hclass.1 hclass.2
      (Sample.progress_passOver _ he) (Option.isSome_iff_ne_none.1 hstays)
  exact ⟨hbears, ⟨e, he⟩, hdone, annotation_survives Sample.arises_annotatedCluster (by decide) hbears hbefore
    hname hlive (Sample.progress_passOver _ hdone)⟩

/-- A pass takes the storage class away and cannot make the new one; the next pass makes it without the annotation. -/
theorem annotation_is_lost :
    ∃ (s s₁ s₂ : Cluster) (c c₁ : LocalClass) (e : Fault),
      s.Arises ∧ Bears "local" "team" "storage" s ∧ s.localClasses.get? "local" = some c ∧ c.isBeingDeleted = false ∧
      (reconcile c).Progress (tending "local" "team" "storage") s (.done (.error e)) s₁ ∧
      s₁.localClasses.get? "local" = some c₁ ∧ c₁.isBeingDeleted = false ∧
      (reconcile c₁).Progress (tending "local" "team" "storage") s₁ (.done (.ok .done)) s₂ ∧
      ∃ sc, s₂.storageClasses.get? "local" = some sc ∧ sc.isManaged = true ∧ ¬ Annotated "local" "team" "storage" sc := by
  let s := Sample.revisedCluster (.createStorageClass "local")
  obtain ⟨hbears, hclass, hlive⟩ : Bears "local" "team" "storage" s ∧
      s.localClasses.get? "local" = some (Sample.classIn s) ∧ (Sample.classIn s).isBeingDeleted = false := by
    decide +kernel
  obtain ⟨hfails, hclass₁, hlive₁, hsucceeds, hlost⟩ : isOk (Sample.passOver s).1 = false ∧
      (Sample.passedOver s).localClasses.get? "local" = some (Sample.classIn (Sample.passedOver s)) ∧
      (Sample.classIn (Sample.passedOver s)).isBeingDeleted = false ∧
      (Sample.passOver (Sample.passedOver s)).1.toOption = some .done ∧
      ((Sample.passedOver (Sample.passedOver s)).storageClasses.get? "local").any
        (fun sc => sc.isManaged && !decide (Annotated "local" "team" "storage" sc)) = true := by decide +kernel
  obtain ⟨e, he⟩ : ∃ e, (Sample.passOver s).1 = .error e := Sample.exists_passOver_eq_error hfails
  have hdone : (Sample.passOver (Sample.passedOver s)).1 = .ok .done := Except.eq_ok_of_toOption hsucceeds
  obtain ⟨sc, hsc, hmanaged⟩ := (Option.any_eq_true _ _).1 hlost
  refine ⟨s, Sample.passedOver s, Sample.passedOver (Sample.passedOver s), Sample.classIn s,
    Sample.classIn (Sample.passedOver s), e, ?_, hbears, hclass, hlive, Sample.progress_passOver _ he, hclass₁, hlive₁,
    Sample.progress_passOver _ hdone, sc, hsc, ?_⟩
  · exact (Sample.arises_annotatedCluster.intervene _).intervene _
  · simpa using hmanaged

end LocalVolumes
