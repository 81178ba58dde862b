import LocalVolumes.Proofs.Materialization
import LocalVolumes.Proofs.Resolution
import LocalVolumes.Simulation

/-!
# LocalVolumes.Proofs.Decision — what a pass decides

A pass decides on a flow, and a flow on what is to be written, from what a class declares and from the storage classes
and groups that there are.  The status of the class matters only where a failure is looked at once more, and its
version and finalizers not at all, so what was decided is decided again after the pass has written them.
-/

namespace LocalVolumes

/-! ### Flows -/

/-- What a pass has found when it runs a flow. -/
def Finds (c : LocalClass) (classes : List StorageClass) : Flow → Prop
  | .create => c.isBeingDeleted = false ∧ findClass? classes c.name = none
  | .delete => c.isBeingDeleted = true
  | .update => c.isBeingDeleted = false ∧
    ∃ current, findClass? classes c.name = some current ∧ current.isManaged = true ∧
      (c.usesSelector = true ∨
        ∃ bindings, resolved [] c = .ok bindings ∧
          (drifted current c bindings = .ok true ∨ drifted current c bindings = .ok false ∧ c.isFailed = true))
  | .nothing => c.isBeingDeleted = false ∧
    ∃ current, findClass? classes c.name = some current ∧ current.isManaged = true ∧ c.usesSelector = false ∧
      ∃ bindings, resolved [] c = .ok bindings ∧ drifted current c bindings = .ok false ∧ c.isFailed = false

theorem finds_of_identifyFlow {c : LocalClass} {classes : List StorageClass} {flow : Flow}
    (h : identifyFlow c classes = .ok flow) : Finds c classes flow := by
  unfold identifyFlow at h
  split at h
  · next hd => exact Except.ok.inj h ▸ hd
  next hd =>
  have hlive := Bool.of_not_eq_true hd
  split at h
  · next hf => exact Except.ok.inj h ▸ ⟨hlive, hf⟩
  next current hf =>
  split at h
  · simp at h
  next hm =>
  have hmanaged : current.isManaged = true := by simpa using hm
  split at h
  · next hs => exact Except.ok.inj h ▸ ⟨hlive, current, hf, hmanaged, .inl hs⟩
  next hs =>
  obtain ⟨bindings, hb, h⟩ := Except.eq_ok_of_bind h
  obtain ⟨differs, hdiff, h⟩ := Except.eq_ok_of_bind h
  split at h
  · next ht =>
    subst ht
    exact Except.ok.inj h ▸ ⟨hlive, current, hf, hmanaged, .inr ⟨bindings, hb, .inl hdiff⟩⟩
  next ht =>
  obtain rfl := Bool.of_not_eq_true ht
  split at h
  · next hfail =>
    exact Except.ok.inj h ▸ ⟨hlive, current, hf, hmanaged, .inr ⟨bindings, hb, .inr ⟨hdiff, hfail⟩⟩⟩
  · next hfail =>
    exact Except.ok.inj h ▸
      ⟨hlive, current, hf, hmanaged, Bool.of_not_eq_true hs, bindings, hb, hdiff, Bool.of_not_eq_true hfail⟩

theorem identifyFlow_of_finds {c : LocalClass} {classes : List StorageClass} {flow : Flow}
    (h : Finds c classes flow) : identifyFlow c classes = .ok flow := by
  unfold identifyFlow
  cases flow with
  | delete =>
    have hdeleted : c.isBeingDeleted = true := h
    rw [if_pos hdeleted]
  | create =>
    obtain ⟨hlive, hf⟩ := h
    simp only [hlive, Bool.false_eq_true, if_false, hf]
  | update =>
    obtain ⟨hlive, current, hf, hm, hs | ⟨bindings, hb, hd | ⟨hd, hfail⟩⟩⟩ := h
    · simp [hlive, hf, hm, hs]
    · simp [hlive, hf, hm, hb, hd, bind, Except.bind]
    · simp [hlive, hf, hm, hb, hd, hfail, bind, Except.bind]
  | nothing =>
    obtain ⟨hlive, current, hf, hm, hs, bindings, hb, hd, hfail⟩ := h
    simp [hlive, hf, hm, hs, hb, hd, hfail, bind, Except.bind]

/-- Only a class that is not being deleted is refused. -/
theorem isBeingDeleted_of_identifyFlow_eq_error {c : LocalClass} {classes : List StorageClass} {e : Fault}
    (h : identifyFlow c classes = .error e) : c.isBeingDeleted = false := by
  refine Bool.eq_false_iff.2 fun hdeleted => ?_
  have hflow : identifyFlow c classes = .ok .delete := identifyFlow_of_finds hdeleted
  rw [hflow] at h
  cases h

/-! ### Other versions of a class -/

/-- Another version of a class: it has the same name, declares the same, and its deletion was asked for or not in the
same way. -/
structure Restates (c' c : LocalClass) : Prop where
  name : c'.metadata.name = c.metadata.name
  deletion : c'.metadata.deletionTimestamp = c.metadata.deletionTimestamp
  spec : c'.spec = c.spec

namespace Restates

variable {c c' c'' : LocalClass} {classes : List StorageClass} {inventory : List VolumeGroup} {e : Fault}

theorem refl (c : LocalClass) : Restates c c := ⟨rfl, rfl, rfl⟩

theorem trans (h : Restates c'' c') (h' : Restates c' c) : Restates c'' c :=
  ⟨h.name.trans h'.name, h.deletion.trans h'.deletion, h.spec.trans h'.spec⟩

theorem name_eq (h : Restates c' c) : c'.name = c.name := by
  simp only [LocalClass.name, Metadata.nameOrUnknown, h.name]

theorem isBeingDeleted (h : Restates c' c) : c'.isBeingDeleted = c.isBeingDeleted := by
  simp only [LocalClass.isBeingDeleted, Metadata.isBeingDeleted, h.deletion]

theorem usesSelector (h : Restates c' c) : c'.usesSelector = c.usesSelector := by
  simp only [LocalClass.usesSelector, h.spec]

theorem resolved (h : Restates c' c) : resolved inventory c' = resolved inventory c := by
  simp only [LocalVolumes.resolved, resolveBindings, h.spec]

theorem drifted (h : Restates c' c) (current : StorageClass) (bindings : List Binding) :
    drifted current c' bindings = drifted current c bindings := by
  simp only [LocalVolumes.drifted, hasDiff?, Materialization.cleanup, h.spec]

theorem judge (h : Restates c' c) : Pass.judge c' inventory classes = Pass.judge c inventory classes := by
  simp only [Pass.judge, h.resolved, violations, Admission.foreignClass?, h.name_eq, h.spec]

/-- A failure is looked at once more. -/
theorem finds_update (h : Restates c' c) (hfail : c'.isFailed = true) (hf : Finds c classes .update) :
    Finds c' classes .update := by
  obtain ⟨hlive, current, hcur, hm, hwhy⟩ := hf
  refine ⟨h.isBeingDeleted.trans hlive, current, h.name_eq.symm ▸ hcur, hm, ?_⟩
  rw [h.usesSelector, h.resolved]
  refine hwhy.imp id fun ⟨bindings, hb, hd⟩ => ⟨bindings, hb, ?_⟩
  rw [h.drifted]
  exact hd.imp id fun hd => ⟨hd.1, hfail⟩

/-- A class that was refused is refused again. -/
theorem identifyFlow_eq_error (h : Restates c' c) (he : identifyFlow c classes = .error e) :
    identifyFlow c' classes = .error e := by
  unfold identifyFlow at he ⊢
  rw [h.isBeingDeleted, h.name_eq, h.usesSelector, h.resolved]
  split at he
  · simp at he
  next hlive =>
  rw [if_neg hlive]
  split at he
  · simp at he
  next current hf =>
  split at he
  · next hm => simpa [hf, hm] using he
  next hm =>
  split at he
  · simp at he
  next hs =>
  simp only [hm, hs, Bool.false_eq_true, if_false]
  cases hb : LocalVolumes.resolved [] c with
  | error e' => simpa [hb, bind, Except.bind] using he
  | ok bindings =>
    simp only [hb, bind, Except.bind] at he ⊢
    rw [h.drifted]
    cases hd : LocalVolumes.drifted current c bindings with
    | error e' => simpa [hd] using he
    | ok differs =>
      simp only [hd] at he
      split at he
      · simp at he
      · split at he <;> simp at he

end Restates

/-! ### What a flow writes -/

/-- The groups that there are matter only for a class with a selector. -/
theorem resolved_of_usesSelector {c : LocalClass} (h : c.usesSelector = false)
    (inventory inventory' : List VolumeGroup) :
    resolved inventory c = resolved inventory' c := by
  rw [resolved, resolved, resolveBindings_eq_of_not_usesSelector h inventory inventory']

namespace Pass

variable {c c' : LocalClass} {inventory : List VolumeGroup} {classes classes' : List StorageClass} {e : Fault}

theorem judge_eq_ok_iff {bindings : List Binding} :
    judge c inventory classes = .ok bindings ↔
      resolved inventory c = .ok bindings ∧ violations c bindings inventory classes = [] := by
  unfold judge admitted
  cases hb : resolved inventory c with
  | error e => simp [bind, Except.bind]
  | ok bs =>
    simp only [bind, Except.bind, Except.ok.injEq, List.isEmpty_iff]
    constructor
    · intro h
      split at h
      · simp at h
      · next hv =>
        split at hv
        · next hnil => exact Except.ok.inj h ▸ ⟨rfl, hnil⟩
        · simp at hv
    · rintro ⟨rfl, hnil⟩
      simp [hnil]

/-- Storage classes matter for a class only in that none of its name belongs to someone else. -/
theorem judge_of_foreignClass {bindings : List Binding} (h : judge c inventory classes = .ok bindings)
    (hf : Admission.foreignClass? c classes' = none) : judge c inventory classes' = .ok bindings := by
  obtain ⟨hb, hv⟩ := judge_eq_ok_iff.1 h
  refine judge_eq_ok_iff.2 ⟨hb, ?_⟩
  unfold violations at hv ⊢
  rw [hf, (List.append_eq_nil_iff.1 hv).2]
  rfl

/-- The storage class that a creation asks for. -/
def draft (c : LocalClass) (inventory : List VolumeGroup) (classes : List StorageClass) :
    Except Fault StorageClass := do
  let bindings ← judge c inventory classes
  materialized c bindings

theorem draft_eq_ok {sc : StorageClass} (h : draft c inventory classes = .ok sc) :
    ∃ bindings lvm, judge c inventory classes = .ok bindings ∧ c.spec.lvm = some lvm ∧
      sc = Materialization.storageClass c lvm bindings := by
  obtain ⟨bindings, hb, h⟩ := Except.eq_ok_of_bind h
  obtain ⟨lvm, hlvm, hsc⟩ := materialized_eq_ok h
  exact ⟨bindings, lvm, hb, hlvm, hsc⟩

/-- What an update has found, and what it puts in the place of the storage class if that has drifted. -/
theorem revise_eq_ok_iff {current : StorageClass} {r : Option StorageClass} :
    revise c inventory classes = .ok (current, r) ↔
      ∃ bindings, judge c inventory classes = .ok bindings ∧ findClass? classes c.name = some current ∧
        (r = none ∧ drifted current c bindings = .ok false ∨
          ∃ sc, r = some sc ∧ drifted current c bindings = .ok true ∧ replacement c bindings current = .ok sc) := by
  constructor
  · intro h
    obtain ⟨bindings, hb, h⟩ := Except.eq_ok_of_bind h
    split at h
    · simp at h
    next found hf =>
    obtain ⟨differs, hd, h⟩ := Except.eq_ok_of_bind h
    split at h
    · next ht =>
      obtain ⟨sc, hsc, h⟩ := Except.eq_ok_of_bind h
      obtain ⟨rfl, rfl⟩ := Prod.mk.inj (Except.ok.inj h)
      exact ⟨bindings, hb, hf, .inr ⟨sc, rfl, ht ▸ hd, hsc⟩⟩
    · next ht =>
      obtain ⟨rfl, rfl⟩ := Prod.mk.inj (Except.ok.inj h)
      exact ⟨bindings, hb, hf, .inl ⟨rfl, Bool.of_not_eq_true ht ▸ hd⟩⟩
  · rintro ⟨bindings, hb, hf, ⟨rfl, hd⟩ | ⟨sc, rfl, hd, hsc⟩⟩
    · simp [revise, hb, hf, hd, bind, Except.bind]
    · simp [revise, hb, hf, hd, hsc, bind, Except.bind]

/-- What an update puts in the place of the storage class that it has found. -/
theorem isMaterialization_of_revise {current sc : StorageClass}
    (h : revise c inventory classes = .ok (current, some sc)) :
    findClass? classes c.name = some current ∧ IsMaterialization c.name sc := by
  obtain ⟨bindings, -, hf, ⟨hr, -⟩ | ⟨sc', hr, -, hsc⟩⟩ := revise_eq_ok_iff.1 h
  · simp at hr
  · obtain rfl := Option.some.inj hr
    exact ⟨hf, .of_replacement hsc⟩

end Pass

namespace Restates

variable {c c' : LocalClass} {inventory : List VolumeGroup} {classes : List StorageClass} {e : Fault}

theorem draft_eq_error (h : Restates c' c) (he : Pass.draft c inventory classes = .error e) :
    Pass.draft c' inventory classes = .error e := by
  unfold Pass.draft at he ⊢
  rw [h.judge]
  cases hb : Pass.judge c inventory classes with
  | error e' => simpa [hb, bind, Except.bind] using he
  | ok bindings =>
    simp only [hb, bind, Except.bind, materialized, buildStorageClass?, h.spec] at he ⊢
    cases hl : c.spec.lvm with
    | none => simpa [hl] using he
    | some lvm => simp [hl] at he

theorem revise_eq_error (h : Restates c' c) (he : Pass.revise c inventory classes = .error e) :
    Pass.revise c' inventory classes = .error e := by
  unfold Pass.revise at he ⊢
  rw [h.judge, h.name_eq]
  cases hb : Pass.judge c inventory classes with
  | error e' => simpa [hb, bind, Except.bind] using he
  | ok bindings =>
    simp only [hb, bind, Except.bind] at he ⊢
    cases hf : findClass? classes c.name with
    | none => simpa [hf] using he
    | some current =>
      simp only [hf, h.drifted] at he ⊢
      cases hd : LocalVolumes.drifted current c bindings with
      | error e' => simpa [hd] using he
      | ok differs =>
        cases differs with
        | false => simp [hd] at he
        | true =>
          simp only [hd, if_true, replacement, buildReplacement?, buildStorageClass?, h.spec] at he ⊢
          cases hl : c.spec.lvm with
          | none => simpa [hl] using he
          | some lvm => simp [hl] at he

end Restates

/-! ### The pass -/

namespace Pass

theorem create_of_hasFinalizer {c : LocalClass} (h : c.hasFinalizer = true) (classes : List StorageClass) :
    create c classes = createClass c.name c classes := by
  unfold create LocalClass.addFinalizer
  rw [if_pos h]

/-- The finalizer comes first where it is missing, and the pass goes on with what is stored then. -/
theorem create_of_not_hasFinalizer {c marked : LocalClass} (h : c.hasFinalizer = false)
    (hmarked : { c with metadata := c.metadata.addFinalizer Marks.controllerFinalizer } = marked)
    (classes : List StorageClass) :
    create c classes = (Routine.call (.replaceLocalClass marked)).bind fun r =>
      match r with
      | .error e => pure (.error e)
      | .ok stored => createClass c.name stored classes := by
  unfold create LocalClass.addFinalizer
  rw [if_neg (Bool.eq_false_iff.1 h), hmarked]
  rfl

/-- What a pass does once it has the list of storage classes. -/
def proceed (c : LocalClass) (classes : List StorageClass) : Routine (Except Fault Outcome) :=
  match identifyFlow c classes with
  | .error e => do
    Routine.record (.reconciliation "identify" false)
    abandon c e
  | .ok flow => do
    let r ← run c classes flow
    Routine.record (.reconciliation flow.word (isOk r))
    pure r

theorem reconcile_eq (c : LocalClass) :
    reconcile c = (Routine.call .listStorageClasses).bind fun r =>
      match r with
      | .error e => pure (.error e)
      | .ok classes => proceed c classes := rfl

end Pass

/-- The first pass over a class. -/
@[irreducible] def Sample.firstPass : Except Fault Outcome × Simulation :=
  ({ cluster := Sample.cluster } : Simulation).perform .ofRoutine [] (reconcile Sample.storedClass)

end LocalVolumes
