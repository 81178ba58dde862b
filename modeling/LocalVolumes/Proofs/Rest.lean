import LocalVolumes.Proofs.Cluster.Undisturbed
import LocalVolumes.Proofs.Decision
import LocalVolumes.Proofs.Simulation

/-!
# LocalVolumes.Proofs.Rest — classes at rest

A class is at rest if a pass over it has nothing to write: its storage class is as it should be or gone for good, or
what is wrong with it stands in its status already.
-/

namespace LocalVolumes

open Cluster

/-- No failure is planned, and each storage class is stored under its own key. -/
structure Cluster.Calm (s : Cluster) : Prop where
  failures : s.failures = []
  storageClasses : Keyed s.storageClasses

/-- A class over which a pass has nothing to write. -/
inductive AtRest (c : LocalClass) (s : Cluster) : Prop
  /-- It cannot be told what to do, and the status says so. -/
  | refused (e : Fault) : identifyFlow c s.storageClasses.values = .error e →
    c.status = some (.failed e.statusReason) → AtRest c s
  /-- No storage class can be made of it, and the status says so. -/
  | undraftable (e : Fault) : Finds c s.storageClasses.values .create → c.hasFinalizer = true →
    Pass.draft c s.groups.values s.storageClasses.values = .error e → c.status = some (.failed e.statusReason) →
    AtRest c s
  /-- The key of its storage class is taken by one without a name. -/
  | taken (sc sc' : StorageClass) : Finds c s.storageClasses.values .create → c.hasFinalizer = true →
    Pass.draft c s.groups.values s.storageClasses.values = .ok sc →
    s.storageClasses.get? (Resource.key sc) = some sc' → AtRest c s
  /-- Its storage class cannot be put right, and the status says so. -/
  | irreparable (e : Fault) : Finds c s.storageClasses.values .update →
    Pass.revise c s.groups.values s.storageClasses.values = .error e → c.status = some (.failed e.statusReason) →
    AtRest c s
  /-- Its storage class is as it should be, and the status says so. -/
  | inOrder (current : StorageClass) : Finds c s.storageClasses.values .update →
    Pass.revise c s.groups.values s.storageClasses.values = .ok (current, none) → c.status = some .created →
    AtRest c s
  /-- There is nothing to do. -/
  | idle : Finds c s.storageClasses.values .nothing → AtRest c s
  /-- It is being deleted, and the controller holds neither it nor a storage class any more. -/
  | released : Finds c s.storageClasses.values .delete →
    c.metadata.hasAnyFinalizer Marks.controllerFinalizers = false →
    (∀ current, findClass? s.storageClasses.values c.name = some current → current.isManaged = false) → AtRest c s

variable {n : String} {c c' : LocalClass} {s t : Cluster} {st : ClassStatus}

/-! ### Passes over a class at rest -/

namespace Pass

variable {classes : List StorageClass} {post : Cluster → Prop}

theorem abandon_of_status {e : Fault} (h : c.status = some (.failed e.statusReason)) :
    abandon c e = .done (.error e) := by
  unfold abandon fail setStatus
  rw [if_pos h]
  rfl

theorem succeed_of_status (h : c.status = some .created) : succeed c = .done (.ok .done) := by
  unfold succeed setStatus
  rw [if_pos h]
  rfl

theorem createClass_eq (name : String) (c : LocalClass) (classes : List StorageClass) :
    createClass name c classes = (Routine.call .listVolumeGroups).bind fun r =>
      match r with
      | .error e => abandon c (inventoryFault e)
      | .ok inventory =>
        match draft c inventory classes with
        | .error e => abandon c e
        | .ok desired =>
          if (findClass? classes name).isSome then pure (.ok .again)
          else (Routine.call (.createStorageClass desired)).bind fun r =>
            match r with
            | .ok _ => succeed c
            | .error e => if e.isAlreadyExists then pure (.ok .again) else abandon c e := rfl

theorem release_of_hasAnyFinalizer (h : c.metadata.hasAnyFinalizer Marks.controllerFinalizers = false) :
    release c = .done (.ok .done) := by
  unfold release LocalClass.removeFinalizer
  rw [h]
  rfl

theorem delete_of_unmanaged (h : ∀ current, findClass? classes c.name = some current → current.isManaged = false) :
    delete c classes = release c := by
  unfold delete
  cases hf : findClass? classes c.name with
  | none => rfl
  | some current => simp only [h current hf, Bool.not_false, if_true]

/-- What comes of a flow comes of the pass that has decided on it. -/
theorem alone_proceed {post : Except Fault Outcome → Cluster → Prop} {flow : Flow} (hflow : Finds c classes flow)
    (h : (run c classes flow).Alone post s) : (proceed c classes).Alone post s := by
  unfold proceed
  rw [identifyFlow_of_finds hflow]
  exact .bind h fun _ _ ht => ht

theorem alone_refuse {e : Fault} (hflow : identifyFlow c classes = .error e)
    (h : (abandon c e).Alone (fun _ => post) s) : (proceed c classes).Alone (fun _ => post) s := by
  unfold proceed
  rw [hflow]
  exact h

end Pass

/-- **A pass over a class at rest writes nothing.** -/
theorem AtRest.reconcile (hs : s.Calm) (h : AtRest c s) :
    (reconcile c).Alone (fun _ t => t.journal = s.journal) s := by
  rw [Pass.reconcile_eq]
  refine .call_bind (answer_listStorageClasses hs.failures) ?_
  cases h with
  | refused e he hst =>
    refine Pass.alone_refuse he ?_
    rw [Pass.abandon_of_status hst]
    exact rfl
  | undraftable e hflow hfin he hst =>
    refine Pass.alone_proceed hflow ?_
    rw [Pass.run, Pass.create_of_hasFinalizer hfin, Pass.createClass_eq]
    refine .call_bind (answer_listVolumeGroups hs.failures) ?_
    dsimp only
    rw [he]
    dsimp only
    rw [Pass.abandon_of_status hst]
    exact rfl
  | taken sc sc' hflow hfin hsc htaken =>
    refine Pass.alone_proceed hflow ?_
    rw [Pass.run, Pass.create_of_hasFinalizer hfin, Pass.createClass_eq]
    refine .call_bind (answer_listVolumeGroups hs.failures) ?_
    dsimp only
    rw [hsc, hflow.2]
    -- the creation is asked for, and fails
    exact .call_bind (answer_createStorageClass_of_taken hs.failures htaken) rfl
  | irreparable e hflow he hst =>
    refine Pass.alone_proceed hflow (.call_bind (answer_listVolumeGroups hs.failures) ?_)
    dsimp only
    rw [he]
    dsimp only
    rw [Pass.abandon_of_status hst]
    exact rfl
  | inOrder current hflow hr hst =>
    refine Pass.alone_proceed hflow (.call_bind (answer_listVolumeGroups hs.failures) ?_)
    dsimp only
    rw [hr]
    dsimp only
    rw [Pass.succeed_of_status hst]
    exact rfl
  | idle hflow => exact Pass.alone_proceed hflow rfl
  | released hflow hfin hclass =>
    refine Pass.alone_proceed hflow ?_
    rw [Pass.run, Pass.delete_of_unmanaged hclass, Pass.release_of_hasAnyFinalizer hfin]
    exact rfl

end LocalVolumes
