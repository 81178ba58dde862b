import LocalVolumes.Proofs.Cluster.Lifecycle

/-!
# LocalVolumes.Proofs.Cluster.Journal — a write happens as a whole or not at all

A write that fails leaves all objects, the counts of looks and the journal as they were, and uses up one planned
failure at most.  A write that succeeds is journaled once, touches the one object that it names, and no failure was
planned for it.  So the journal tells, in order, of the writes that succeeded.
-/

namespace LocalVolumes

/-- The kind of object that a write is about. -/
def Operation.kind? : Operation → Option Kind
  | .createStorageClass _ => some .storageClass
  | .replaceStorageClass _ => some .storageClass
  | .deleteStorageClass _ => some .storageClass
  | .replaceLocalClass _ => some .localClass
  | .replaceLocalClassStatus _ => some .localClass
  | .createVolume _ => some .volume
  | .replaceVolume _ => some .volume
  | .deleteVolume _ => some .volume
  | _ => none

/-- An operation is a write of the object of a kind and a name. -/
def Operation.Names (op : Operation) (k : Kind) (n : String) : Prop := op.kind? = some k ∧ op.target = n

namespace NameMap

variable {α : Type} {m : NameMap α} {k n : String}

theorem get?_insert_ne {a : α} (h : n ≠ k) : (m.insert k a).get? n = m.get? n := by
  rw [get?_insert, if_neg h]

theorem get?_erase_ne (h : n ≠ k) : (m.erase k).get? n = m.get? n := by
  rw [get?_erase, if_neg h]

end NameMap

namespace Cluster

variable {s s' : Cluster} {op : Operation}

/-! ### Planned failures -/

/-- No failure is planned for an operation. -/
def Unplanned (op : Operation) (s : Cluster) : Prop := ∀ f ∈ s.failures, f.1 ≠ op

theorem unplanned_of_isEmpty (h : s.failures.isEmpty = true) : s.Unplanned op := by
  simp [Unplanned, List.isEmpty_iff.1 h]

/-- What is left of the planned failures after an operation has failed: the first that names it was the cause and is
used up, or none names it and all are left. -/
inductive Spends (op : Operation) (e : Fault) : List (Operation × Fault) → List (Operation × Fault) → Prop
  | planned {before after : List (Operation × Fault)} :
    (∀ f ∈ before, f.1 ≠ op) → Spends op e (before ++ (op, e) :: after) (before ++ after)
  | unplanned {failures : List (Operation × Fault)} :
    (∀ f ∈ failures, f.1 ≠ op) → Spends op e failures failures

theorem takeFailure_eq_none_iff {fs : List (Operation × Fault)} : takeFailure op fs = none ↔ ∀ f ∈ fs, f.1 ≠ op := by
  induction fs with
  | nil => simp [takeFailure]
  | cons f fs ih =>
    by_cases hf : f.1 = op
    · simp [takeFailure, hf]
    · simp [takeFailure, hf, ih]

theorem spends_of_takeFailure {fs gs : List (Operation × Fault)} {e : Fault} (h : takeFailure op fs = some (e, gs)) :
    Spends op e fs gs := by
  suffices hsplit : ∃ before after, fs = before ++ (op, e) :: after ∧ (∀ f ∈ before, f.1 ≠ op) ∧ gs = before ++ after by
    obtain ⟨before, after, rfl, hbefore, rfl⟩ := hsplit
    exact .planned hbefore
  induction fs generalizing gs with
  | nil => simp [takeFailure] at h
  | cons f fs ih =>
    unfold takeFailure at h
    split at h
    · next hf =>
      obtain ⟨rfl, rfl⟩ := Prod.mk.inj (Option.some.inj h)
      exact ⟨[], fs, by rw [List.nil_append, ← hf], by simp, rfl⟩
    · next hf =>
      obtain ⟨⟨e', gs'⟩, htake, he⟩ := Option.map_eq_some_iff.1 h
      obtain ⟨rfl, rfl⟩ := Prod.mk.inj he
      obtain ⟨before, after, rfl, hbefore, rfl⟩ := ih htake
      exact ⟨f :: before, after, rfl, List.forall_mem_cons.2 ⟨hf, hbefore⟩, rfl⟩

/-! ### Looks at volumes that do not converge by themselves -/

variable {n : String}

theorem pollVolume_of_still {v : LogicalVolume} (hs : s.convergence = none) : pollVolume n v s = (.ok (), s) := by
  simp only [pollVolume, hs]

/-- Where volumes do not converge by themselves, a look at one changes nothing. -/
theorem answer_getVolume_of_still (hs : s.convergence = none) (hu : s.Unplanned (.getVolume n)) :
    s.answer (.getVolume n) = (.ok (s.volumes.get? n), s) := by
  rw [answer, attempt, takeFailure_eq_none_iff.2 hu]
  cases hv : s.volumes.get? n with
  | none => rfl
  | some v => simp only [pollVolume_of_still hs, hv]

theorem Serves.getVolume_of_still {r : Except Fault (Option LogicalVolume)} (hs : s.convergence = none)
    (h : s.Serves (.getVolume n) r s') : s.Fails r s' ∨ r = .ok (s.volumes.get? n) ∧ s' = s := by
  rcases h.answered with hf | ha
  · exact .inl hf
  · rw [answer] at ha
    rcases attempt_cases ha with hf | hact
    · exact .inl hf
    · cases hv : s.volumes.get? n with
      | none =>
        rw [hv] at hact
        exact .inr ⟨(congrArg Prod.fst hact).symm, (congrArg Prod.snd hact).symm⟩
      | some v =>
        simp only [hv, pollVolume_of_still hs] at hact
        exact .inr ⟨(congrArg Prod.fst hact).symm, (congrArg Prod.snd hact).symm⟩

/-! ### One write -/

/-- An operation failed.  Nothing differs but the last version, and the failure that was planned for the operation, if
there was one, is used up. -/
structure Rejected (op : Operation) (e : Fault) (s s' : Cluster) : Prop where
  rests : s.Rests s'
  spends : Spends op e s.failures s'.failures

/-- A write succeeded.  It is journaled, no failure was planned for it, and no object differs but the one that it
names; the looks at other volumes stay counted. -/
structure Committed (op : Operation) (s s' : Cluster) : Prop where
  journal : s'.journal = s.journal ++ [op]
  unplanned : s.Unplanned op
  failures : s'.failures = s.failures
  groups : s'.groups = s.groups
  storageClasses (n : String) : ¬ op.Names .storageClass n → s'.storageClasses.get? n = s.storageClasses.get? n
  localClasses (n : String) : ¬ op.Names .localClass n → s'.localClasses.get? n = s.localClasses.get? n
  volumes (n : String) : ¬ op.Names .volume n → s'.volumes.get? n = s.volumes.get? n
  polls (n : String) : ¬ op.Names .volume n → s'.polls.get? n = s.polls.get? n

section Write

variable {α : Type} {act : Cluster → Except Fault (α × Cluster)}

/-- A write fails because that was planned, or because of its object. -/
theorem rejected_of_write {e : Fault} (h : (write op s act).1 = .error e) : Rejected op e s (write op s act).2 := by
  unfold write attempt at h ⊢
  cases htake : takeFailure op s.failures with
  | some taken =>
    obtain ⟨e', fs⟩ := taken
    simp only [htake] at h
    obtain rfl := Except.error.inj h
    exact ⟨⟨_, _, Nat.le_refl _, rfl⟩, spends_of_takeFailure htake⟩
  | none =>
    simp only [htake] at h ⊢
    cases hact : act s.bump with
    | ok made => simp [hact] at h
    | error e' => exact ⟨⟨_, s.failures, Nat.le_succ _, rfl⟩, .unplanned (takeFailure_eq_none_iff.1 htake)⟩

/-- A write succeeds only if no failure was planned for it. -/
theorem unplanned_of_write {a : α} (h : (write op s act).1 = .ok a) : s.Unplanned op := by
  unfold write attempt at h
  split at h
  · simp at h
  · next htake => exact takeFailure_eq_none_iff.1 htake

end Write

/-- A call that is journaled is a write. -/
theorem answer_eq_write {c : Call} (hop : op ∈ c.entries) (s : Cluster) : ∃ act, s.answer c = write op s act := by
  cases c
  case createStorageClass | replaceStorageClass | deleteStorageClass | replaceLocalClass | replaceLocalClassStatus |
      createVolume | replaceVolume | deleteVolume =>
    obtain rfl := List.mem_singleton.1 hop
    rw [answer]
    exact ⟨_, rfl⟩
  all_goals simp [Call.entries] at hop

/-! ### What a write that succeeds touches -/

theorem not_fails_ok {ε α : Type} {a : α} : ¬ s.Fails (.ok a : Except ε α) s' := by
  rintro ⟨⟨e, he⟩, -⟩
  simp at he

/-- A replacement keeps the looks at other volumes. -/
theorem Serves.polls_replaceVolume {v a : LogicalVolume} (hs : s.Serves (.replaceVolume v) (.ok a) s') (n : String)
    (hn : n ≠ Resource.key v) : s'.polls.get? n = s.polls.get? n := by
  have hw := hs.answered.resolve_left not_fails_ok
  rw [answer] at hw
  obtain ⟨b, t, hact, -, rfl⟩ := (write_cases hw).resolve_left not_fails_ok
  obtain ⟨⟨b, m⟩, -, hact⟩ := Except.eq_ok_of_bind hact
  simp only [Except.ok.injEq, Prod.mk.injEq] at hact
  obtain ⟨-, rfl⟩ := hact
  dsimp only
  split
  · exact NameMap.get?_erase_ne hn
  · rfl

section Committed

variable (hj : s'.journal = s.journal ++ [op]) (hu : s.Unplanned op) (hf : s'.failures = s.failures)
  (hg : s'.groups = s.groups)

include hj hu hf hg

/-- A write of the storage classes. -/
theorem Committed.of_storageClass (hk : op.kind? = some .storageClass)
    (ht : ∀ n ≠ op.target, s'.storageClasses.get? n = s.storageClasses.get? n)
    (hl : s'.localClasses = s.localClasses) (hv : s'.volumes = s.volumes) (hp : s'.polls = s.polls) :
    Committed op s s' :=
  ⟨hj, hu, hf, hg, fun n hn => ht n fun he => hn ⟨hk, he.symm⟩, fun _ _ => by rw [hl], fun _ _ => by rw [hv],
    fun _ _ => by rw [hp]⟩

/-- A write of the local classes. -/
theorem Committed.of_localClass (hk : op.kind? = some .localClass)
    (ht : ∀ n ≠ op.target, s'.localClasses.get? n = s.localClasses.get? n)
    (hs : s'.storageClasses = s.storageClasses) (hv : s'.volumes = s.volumes) (hp : s'.polls = s.polls) :
    Committed op s s' :=
  ⟨hj, hu, hf, hg, fun _ _ => by rw [hs], fun n hn => ht n fun he => hn ⟨hk, he.symm⟩, fun _ _ => by rw [hv],
    fun _ _ => by rw [hp]⟩

/-- A write of the volumes. -/
theorem Committed.of_volume (hk : op.kind? = some .volume)
    (ht : ∀ n ≠ op.target, s'.volumes.get? n = s.volumes.get? n)
    (hp : ∀ n ≠ op.target, s'.polls.get? n = s.polls.get? n)
    (hs : s'.storageClasses = s.storageClasses) (hl : s'.localClasses = s.localClasses) : Committed op s s' :=
  ⟨hj, hu, hf, hg, fun _ _ => by rw [hs], fun _ _ => by rw [hl], fun n hn => ht n fun he => hn ⟨hk, he.symm⟩,
    fun n hn => hp n fun he => hn ⟨hk, he.symm⟩⟩

end Committed

/-- What comes of a write that succeeds. -/
theorem Serves.committed {c : Call} {a : c.Answer} (hs : s.Serves c (.ok a) s') (hop : op ∈ c.entries)
    (hu : s.Unplanned op) : Committed op s s' := by
  cases c with
  | createStorageClass c =>
    obtain rfl := List.mem_singleton.1 hop
    obtain ⟨-, -, rfl⟩ := hs.createStorageClass.resolve_left not_fails_ok
    exact .of_storageClass rfl hu rfl rfl rfl (fun _ hn => NameMap.get?_insert_ne hn) rfl rfl rfl
  | replaceStorageClass c =>
    obtain rfl := List.mem_singleton.1 hop
    obtain ⟨stored, -, -, -, rfl⟩ := hs.replaceStorageClass.resolve_left not_fails_ok
    exact .of_storageClass rfl hu rfl rfl rfl (fun _ hn => get?_settled_ne _ hn) rfl rfl rfl
  | deleteStorageClass name =>
    obtain rfl := List.mem_singleton.1 hop
    obtain ⟨-, rfl⟩ := hs.deleteStorageClass.resolve_left not_fails_ok
    exact .of_storageClass rfl hu rfl rfl rfl (fun _ hn => get?_markDeleted_ne hn) rfl rfl rfl
  | replaceLocalClass c =>
    obtain rfl := List.mem_singleton.1 hop
    obtain ⟨stored, -, -, -, rfl⟩ := hs.replaceLocalClass.resolve_left not_fails_ok
    exact .of_localClass rfl hu rfl rfl rfl (fun _ hn => get?_settled_ne _ hn) rfl rfl rfl
  | replaceLocalClassStatus c =>
    obtain rfl := List.mem_singleton.1 hop
    obtain ⟨stored, -, -, -, rfl⟩ := hs.replaceLocalClassStatus.resolve_left not_fails_ok
    exact .of_localClass rfl hu rfl rfl rfl (fun _ hn => get?_settled_ne _ hn) rfl rfl rfl
  | createVolume v =>
    obtain rfl := List.mem_singleton.1 hop
    obtain ⟨-, -, rfl⟩ := hs.createVolume.resolve_left not_fails_ok
    exact .of_volume rfl hu rfl rfl rfl (fun _ hn => NameMap.get?_insert_ne hn)
      (fun _ hn => NameMap.get?_erase_ne hn) rfl rfl
  | replaceVolume v =>
    obtain rfl := List.mem_singleton.1 hop
    have hp := hs.polls_replaceVolume
    obtain ⟨stored, resized, ps, -, -, -, rfl⟩ := hs.replaceVolume.resolve_left not_fails_ok
    exact .of_volume rfl hu rfl rfl rfl (fun _ hn => get?_settled_ne _ hn) hp rfl rfl
  | deleteVolume name =>
    obtain rfl := List.mem_singleton.1 hop
    obtain ⟨-, rfl⟩ := hs.deleteVolume.resolve_left not_fails_ok
    exact .of_volume rfl hu rfl rfl rfl (fun _ hn => get?_markDeleted_ne hn)
      (fun _ hn => NameMap.get?_erase_ne hn) rfl rfl
  | _ => simp [Call.entries] at hop

theorem rejected_of_answer {c : Call} {e : Fault} (hop : op ∈ c.entries) (h : (s.answer c).1 = .error e) :
    Rejected op e s (s.answer c).2 := by
  obtain ⟨act, hact⟩ := answer_eq_write hop s
  rw [hact] at h ⊢
  exact rejected_of_write h

theorem committed_of_answer {c : Call} {a : c.Answer} (hop : op ∈ c.entries) (h : (s.answer c).1 = .ok a) :
    Committed op s (s.answer c).2 := by
  have hs : s.Serves c (.ok a) (s.answer c).2 := h ▸ serves_answer s c
  obtain ⟨act, hact⟩ := answer_eq_write hop s
  rw [hact] at h
  exact hs.committed hop (unplanned_of_write h)

/-! ### Runs -/

/-- The write that an event is, if it is one that succeeds. -/
def success (s : Cluster) : Event → List Operation
  | .intervention _ => []
  | .call c =>
    match (s.answer c).1 with
    | .ok _ => c.entries
    | .error _ => []

/-- The writes of a run that succeed, in order. -/
def successes (s : Cluster) : List Event → List Operation
  | [] => []
  | e :: es => s.success e ++ (s.after e).successes es

/-- The cluster after some events. -/
def afterAll (s : Cluster) (es : List Event) : Cluster := es.foldl after s

theorem journal_intervene (s : Cluster) (i : Intervention) : (s.intervene i).journal = s.journal := by
  cases i with
  | reportVolume name status =>
    simp only [intervene]
    split <;> rfl
  | _ => rfl

theorem entries_cases (c : Call) : c.entries = [] ∨ ∃ op, c.entries = [op] := by
  cases c <;> simp [Call.entries]

/-- An event that is a write and succeeds is journaled, and nothing else is. -/
theorem journal_after (s : Cluster) (e : Event) : (s.after e).journal = s.journal ++ s.success e := by
  cases e with
  | intervention i => rw [after, journal_intervene, success, List.append_nil]
  | call c =>
    rcases entries_cases c with hnil | ⟨op, hop⟩
    · obtain ⟨ops, hj, hsub⟩ := (serves_answer s c).frame.journal
      obtain rfl : ops = [] := List.subset_nil.1 (hnil ▸ hsub)
      have hnone : s.success (.call c) = [] := by
        rw [success]
        split
        · exact hnil
        · rfl
      rw [hnone, after, hj]
    · have hmem : op ∈ c.entries := by simp [hop]
      cases hr : (s.answer c).1 with
      | ok a => rw [after, (committed_of_answer hmem hr).journal, success, hr, hop]
      | error e =>
        obtain ⟨v, fs, -, hs⟩ := (rejected_of_answer hmem hr).rests
        rw [after, hs, success, hr, List.append_nil]

/-- The journal grows by the writes that succeed. -/
theorem journal_afterAll (s : Cluster) (es : List Event) : (s.afterAll es).journal = s.journal ++ s.successes es := by
  induction es generalizing s with
  | nil => exact (List.append_nil _).symm
  | cons e es ih =>
    have hstep : s.afterAll (e :: es) = (s.after e).afterAll es := rfl
    rw [hstep, ih, journal_after, successes, List.append_assoc]

end Cluster

open Cluster in
/-- **A write happens as a whole or not at all, and the journal tells of those that happened.** -/
theorem writes_are_atomic (s : Cluster) :
    (∀ c op, op ∈ c.entries →
      (∀ e, (s.answer c).1 = .error e → Rejected op e s (s.answer c).2) ∧
        ∀ a, (s.answer c).1 = .ok a → Committed op s (s.answer c).2) ∧
      ∀ es, (s.afterAll es).journal = s.journal ++ s.successes es :=
  ⟨fun _ _ hop => ⟨fun _ => rejected_of_answer hop, fun _ => committed_of_answer hop⟩, s.journal_afterAll⟩

namespace Sample

/-- A cluster with a storage class, whose first deletion is to fail. -/
def unreliable : Cluster :=
  (Cluster.after {} (.call (.createStorageClass heldClass))).after
    (.intervention (.planFailure (.deleteStorageClass "slow") (.internal "down")))

/-- The storage class is created again, deleted in vain, and deleted. -/
def retries : List Cluster.Event :=
  [.call (.createStorageClass heldClass), .call (.deleteStorageClass "slow"), .call (.deleteStorageClass "slow")]

end Sample

/-- Of three writes, one is refused, one fails as it was planned, and one is journaled. -/
theorem writes_are_atomic_unreliable :
    (Sample.unreliable.afterAll Sample.retries).journal =
        [.createStorageClass "slow", .deleteStorageClass "slow"] ∧
      Cluster.Rejected (.deleteStorageClass "slow") (.internal "down") Sample.unreliable
        (Sample.unreliable.after (.call (.deleteStorageClass "slow"))) ∧
      Cluster.Committed (.deleteStorageClass "slow") Sample.doomed
        (Sample.doomed.after (.call (.deleteStorageClass "slow"))) := by
  obtain ⟨hfails, hjournal⟩ := writes_are_atomic Sample.unreliable
  obtain ⟨hsucceeds, -⟩ := writes_are_atomic Sample.doomed
  have hwrite : Operation.deleteStorageClass "slow" ∈ (Call.deleteStorageClass "slow").entries :=
    List.mem_singleton_self _
  exact ⟨(hjournal Sample.retries).trans rfl, (hfails _ _ hwrite).1 _ rfl, (hsucceeds _ _ hwrite).2 () rfl⟩

end LocalVolumes
