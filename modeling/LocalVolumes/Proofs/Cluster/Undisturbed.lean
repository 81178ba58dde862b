import LocalVolumes.Proofs.Cluster.Calls

/-!
# LocalVolumes.Proofs.Cluster.Undisturbed — the answers of a cluster for which no failure is planned

Without planned failures a write fails only because of the object itself, so each answer is known from the table.
-/

namespace LocalVolumes.Cluster

variable {s : Cluster}

theorem attempt_eq {α : Type} (hs : s.failures = []) (op : Operation)
    (act : Cluster → Except Fault α × Cluster) : attempt op s act = act s := by
  simp [attempt, hs, takeFailure]

theorem write_eq_of_ok {α : Type} (hs : s.failures = []) {op : Operation}
    {act : Cluster → Except Fault (α × Cluster)} {a : α} {t : Cluster} (h : act s.bump = .ok (a, t)) :
    write op s act = (.ok a, { t with journal := t.journal ++ [op] }) := by
  rw [write, attempt_eq hs, h]

theorem write_eq_of_error {α : Type} (hs : s.failures = []) {op : Operation}
    {act : Cluster → Except Fault (α × Cluster)} {e : Fault} (h : act s.bump = .error e) :
    write op s act = (.error e, s.bump) := by
  rw [write, attempt_eq hs, h]

theorem write_object_eq_of_ok {α : Type} (put : NameMap α → Cluster → Cluster) (hs : s.failures = [])
    {op : Operation} {object : Cluster → Except Fault (α × NameMap α)} {a : α} {m : NameMap α}
    (h : object s.bump = .ok (a, m)) :
    write op s (fun s => do
      let (a, m) ← object s
      .ok (a, put m s)) = (.ok a, { put m s.bump with journal := (put m s.bump).journal ++ [op] }) :=
  write_eq_of_ok hs (by simp [h, bind, Except.bind])

theorem answer_listStorageClasses (hs : s.failures = []) :
    s.answer .listStorageClasses = (.ok s.storageClasses.values, s) := attempt_eq hs _ _

theorem answer_listVolumeGroups (hs : s.failures = []) :
    s.answer .listVolumeGroups = (.ok s.groups.values, s) := attempt_eq hs _ _

/-! ### Storage classes -/

theorem answer_createStorageClass (hs : s.failures = []) {c : StorageClass}
    (hc : s.storageClasses.get? (Resource.key c) = none) :
    let c' := stamped c s.nextVersion none
    s.answer (.createStorageClass c) =
      (.ok c', { s.bump with
        storageClasses := s.storageClasses.insert (Resource.key c) c'
        journal := s.journal ++ [.createStorageClass (Resource.key c)] }) := by
  rw [answer]
  refine write_object_eq_of_ok (fun m s => { s with storageClasses := m }) hs ?_
  exact createObject_eq_ok_iff.2 ⟨hc, rfl, rfl⟩

theorem answer_createStorageClass_of_taken (hs : s.failures = []) {c sc : StorageClass}
    (hc : s.storageClasses.get? (Resource.key c) = some sc) :
    s.answer (.createStorageClass c) =
      (.error (.resourceExists StorageClass.kind (Resource.key c)), s.bump) := by
  rw [answer]
  refine write_eq_of_error hs ?_
  simp [createObject, NameMap.contains, bump, hc, bind, Except.bind]

theorem answer_replaceStorageClass (hs : s.failures = []) {c stored : StorageClass}
    (hc : s.storageClasses.get? (Resource.key c) = some stored) (hv : isCurrent stored c = true) :
    let c' := stamped c s.nextVersion stored.metadata.deletionTimestamp
    s.answer (.replaceStorageClass c) =
      (.ok c', { s.bump with
        storageClasses := settled s.storageClasses (Resource.key c) c'
        journal := s.journal ++ [.replaceStorageClass (Resource.key c)] }) := by
  rw [answer]
  refine write_object_eq_of_ok (fun m s => { s with storageClasses := m }) hs ?_
  exact replaceObject_of_current _ _ _ hc hv

theorem answer_deleteStorageClass (hs : s.failures = []) (name : String) :
    s.answer (.deleteStorageClass name) =
      (.ok (), { s.bump with
        storageClasses := markDeleted s.storageClasses name s.nextVersion s.now
        journal := s.journal ++ [.deleteStorageClass name] }) := by
  rw [answer]
  exact write_eq_of_ok hs
    (t := { s.bump with storageClasses := markDeleted s.storageClasses name s.nextVersion s.now }) rfl

/-! ### Local classes -/

theorem answer_replaceLocalClass (hs : s.failures = []) {c stored : LocalClass}
    (hc : s.localClasses.get? (Resource.key c) = some stored) (hv : isCurrent stored c = true) :
    let c' := stamped (keepClassStatus stored c) s.nextVersion stored.metadata.deletionTimestamp
    s.answer (.replaceLocalClass c) =
      (.ok c', { s.bump with
        localClasses := settled s.localClasses (Resource.key c) c'
        journal := s.journal ++ [.replaceLocalClass (Resource.key c)] }) := by
  intro c'
  rw [answer]
  exact write_object_eq_of_ok (a := c') (m := settled s.localClasses (Resource.key c) c')
    (fun m s => { s with localClasses := m }) hs (replaceObject_of_current _ _ _ hc hv)

theorem answer_replaceLocalClassStatus (hs : s.failures = []) {c stored : LocalClass}
    (hc : s.localClasses.get? (Resource.key c) = some stored) (hv : isCurrent stored c = true) :
    let c' := stamped (takeClassStatus stored c) s.nextVersion stored.metadata.deletionTimestamp
    s.answer (.replaceLocalClassStatus c) =
      (.ok c', { s.bump with
        localClasses := settled s.localClasses (Resource.key c) c'
        journal := s.journal ++ [.replaceLocalClassStatus (Resource.key c)] }) := by
  intro c'
  rw [answer]
  exact write_object_eq_of_ok (a := c') (m := settled s.localClasses (Resource.key c) c')
    (fun m s => { s with localClasses := m }) hs (replaceObject_of_current _ _ _ hc hv)

/-! ### Volumes -/

theorem answer_createVolume (hs : s.failures = []) {v : LogicalVolume}
    (hv : s.volumes.get? (Resource.key v) = none) :
    s.answer (.createVolume v) =
      (.ok (stamped v s.nextVersion none), { s.bump with
        volumes := s.volumes.insert (Resource.key v) (stamped v s.nextVersion none)
        polls := s.polls.erase (Resource.key v)
        journal := s.journal ++ [.createVolume (Resource.key v)] }) := by
  have hc : createObject LogicalVolume.kind s.bump.volumes v s.bump.versionText = .ok (stamped v s.nextVersion none, _) :=
    createObject_eq_ok_iff.2 ⟨hv, rfl, rfl⟩
  rw [answer]
  refine write_eq_of_ok hs (t := { s.bump with
    volumes := s.volumes.insert (Resource.key v) (stamped v s.nextVersion none)
    polls := s.polls.erase (Resource.key v) }) ?_
  rw [hc]
  simp [bind, Except.bind, bump]

theorem answer_createVolume_of_taken (hs : s.failures = []) {v w : LogicalVolume}
    (hv : s.volumes.get? (Resource.key v) = some w) :
    s.answer (.createVolume v) = (.error (.resourceExists LogicalVolume.kind (Resource.key v)), s.bump) := by
  rw [answer]
  refine write_eq_of_error hs ?_
  simp [createObject, NameMap.contains, bump, hv, bind, Except.bind]

theorem answer_replaceVolume (hs : s.failures = []) {v stored : LogicalVolume}
    (hc : s.volumes.get? (Resource.key v) = some stored) (hv : isCurrent stored v = true) :
    ∃ resized ps,
      let v' := stamped (keepVolumeStatus resized stored v) s.nextVersion stored.metadata.deletionTimestamp
      s.answer (.replaceVolume v) =
        (.ok v', { s.bump with
          volumes := settled s.volumes (Resource.key v) v'
          polls := ps
          journal := s.journal ++ [.replaceVolume (Resource.key v)] }) := by
  refine ⟨isResized s.volumes v,
    if isResized s.volumes v then s.polls.erase (Resource.key v) else s.polls, ?_⟩
  have ho := replaceObject_of_current LogicalVolume.kind s.nextVersion (keepVolumeStatus (isResized s.volumes v)) hc hv
  rw [answer, write, attempt_eq hs]
  dsimp only [bump, nextVersion] at ho ⊢
  rw [ho]
  rfl

theorem answer_deleteVolume (hs : s.failures = []) (name : String) :
    s.answer (.deleteVolume name) =
      (.ok (), { s.bump with
        volumes := markDeleted s.volumes name s.nextVersion s.now
        polls := s.polls.erase name
        journal := s.journal ++ [.deleteVolume name] }) := by
  rw [answer]
  exact write_eq_of_ok hs
    (t := { s.bump with volumes := markDeleted s.volumes name s.nextVersion s.now, polls := s.polls.erase name }) rfl

/-! ### Planned failures -/

theorem failures_write {α : Type} (hs : s.failures = []) {op : Operation}
    {act : Cluster → Except Fault (α × Cluster)} (hact : ∀ a t, act s.bump = .ok (a, t) → t.failures = []) :
    (write op s act).2.failures = [] := by
  rw [write, attempt_eq hs]
  split
  · exact hs
  · next a t h => exact hact a t h

theorem failures_write_object {α : Type} (put : NameMap α → Cluster → Cluster) (hs : s.failures = [])
    {op : Operation} {object : Cluster → Except Fault (α × NameMap α)}
    (hput : ∀ m, (put m s.bump).failures = s.failures) :
    (write op s (fun s => do
      let (a, m) ← object s
      .ok (a, put m s))).2.failures = [] := by
  refine failures_write hs fun a t h => ?_
  obtain ⟨p, -, h⟩ := Except.eq_ok_of_bind h
  cases h
  exact (hput p.2).trans hs

theorem failures_pollVolume (name : String) (v : LogicalVolume) :
    (pollVolume name v s).2.failures = s.failures := by
  unfold pollVolume
  split
  · rfl
  · dsimp only
    split
    · rfl
    · split <;> rfl

/-- Where no failure is planned, no call plans one. -/
theorem failures_answer (hs : s.failures = []) (c : Call) : (s.answer c).2.failures = [] := by
  cases c with
  | listStorageClasses => exact (congrArg (·.2.failures) (answer_listStorageClasses hs)).trans hs
  | getStorageClass name => exact hs
  | createStorageClass c => exact failures_write_object (fun m s => { s with storageClasses := m }) hs fun _ => rfl
  | replaceStorageClass c => exact failures_write_object (fun m s => { s with storageClasses := m }) hs fun _ => rfl
  | deleteStorageClass name => exact (congrArg (·.2.failures) (answer_deleteStorageClass hs name)).trans hs
  | listLocalClasses => exact hs
  | getLocalClass name => exact hs
  | replaceLocalClass c => exact failures_write_object (fun m s => { s with localClasses := m }) hs fun _ => rfl
  | replaceLocalClassStatus c =>
    exact failures_write_object (fun m s => { s with localClasses := m }) hs fun _ => rfl
  | listVolumeGroups => exact (congrArg (·.2.failures) (answer_listVolumeGroups hs)).trans hs
  | getVolumeGroup name => exact hs
  | createVolume v =>
    refine failures_write hs fun a t h => ?_
    obtain ⟨p, -, h⟩ := Except.eq_ok_of_bind h
    cases h
    exact hs
  | getVolume name =>
    rw [answer, attempt_eq hs]
    split
    · exact hs
    · next v _ =>
      have hp := failures_pollVolume (s := s) name v
      generalize pollVolume name v s = p at hp ⊢
      obtain ⟨r, t⟩ := p
      cases r <;> exact hp.trans hs
  | replaceVolume v =>
    refine failures_write hs fun a t h => ?_
    obtain ⟨p, -, h⟩ := Except.eq_ok_of_bind h
    cases h
    exact hs
  | deleteVolume name => exact (congrArg (·.2.failures) (answer_deleteVolume hs name)).trans hs

end LocalVolumes.Cluster
