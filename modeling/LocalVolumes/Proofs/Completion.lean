import LocalVolumes.Proofs.Cluster.Frame
import LocalVolumes.Proofs.Decision
import LocalVolumes.Proofs.Drift
import LocalVolumes.Proofs.Simulation

/-!
# LocalVolumes.Proofs.Completion — what a pass that is done has brought about

Nobody else acts, and calls may fail anywhere.  If a pass over a class that is not being deleted is done all the same,
the storage class of its name is as it should be for the groups that there are.  There are three ways to come there:
it was so before; it was missing, and the pass has created it; or it had drifted, and the pass has deleted it and
created another one.
-/

namespace LocalVolumes

open Cluster

/-- Nobody else acts. -/
def undisturbed : Rely where
  may s s' := s' = s
  refl _ := rfl
  trans h h' := h'.trans h

variable {α β : Type} {n : String} {s s' s'' : Cluster}

/-! ### Runs that nobody disturbs, but whose calls may fail -/

/-- What a routine comes to while nobody else acts, wherever its calls fail. -/
def Comes (post : α → Cluster → Prop) (t : Routine α) (s : Cluster) : Prop :=
  t.Keeps (fun _ => True) undisturbed (fun _ _ _ => True) post s

namespace Comes

variable {post : α → Cluster → Prop}

theorem done {a : α} (h : post a s) : Comes post (.done a) s := by
  rintro s₁ rfl -
  exact h

theorem mono {post' : α → Cluster → Prop} {t : Routine α} (h : Comes post t s) (hp : ∀ a s, post a s → post' a s) :
    Comes post' t s := Routine.Keeps.mono h (fun _ _ _ h => h) fun a s _ => hp a s

theorem bind {t : Routine β} {f : β → Routine α} {q : β → Cluster → Prop} (h : Comes q t s)
    (hf : ∀ b s₁, q b s₁ → Comes post (f b) s₁) : Comes post (t.bind f) s :=
  Routine.Keeps.bind h fun b s₁ _ => hf b s₁

theorem call {c : Call} {f : c.Result → Routine α} (h : ∀ r s₁, s.Serves c r s₁ → Comes post (f r) s₁) :
    Comes post ((Routine.call c).bind f) s := by
  refine Routine.Keeps.call ?_
  rintro s₁ r s₂ rfl - hs
  exact ⟨trivial, trivial, h r s₂ hs⟩

/-- A call and nothing after it. -/
theorem call_done {c : Call} {post : c.Result → Cluster → Prop} (h : ∀ r s₁, s.Serves c r s₁ → post r s₁) :
    Comes post (Routine.call c) s := by
  rw [← Routine.bind_pure_right (Routine.call c)]
  exact .call fun r s₁ hs => .done (h r s₁ hs)

theorem record {x : Sample} {f : Unit → Routine α} (h : Comes post (f ()) s) :
    Comes post ((Routine.record x).bind f) s := Routine.Keeps.record (fun _ => trivial) h

/-- A routine that ends with a result of some kind, whatever the cluster is then. -/
theorem of_ends {P : α → Prop} {t : Routine α} (h : t.Ends P) (hp : ∀ a s, P a → post a s) : Comes post t s := by
  induction t generalizing s with
  | done a => exact done (hp a s h)
  | ask e next ih => exact fun s₁ r s₂ _ _ _ => ⟨trivial, trivial, ih r (h r)⟩

end Comes

/-! ### Storage classes that come and go -/

/-- What was journaled between two states of storage classes that came and went. -/
def Journals (s s' : Cluster) (ops : List Operation) : Prop :=
  ∃ all, s'.journal = s.journal ++ all ∧ all.filter (·.isStorageClassLifecycle) = ops

theorem Journals.refl (s : Cluster) : Journals s s [] := ⟨[], (List.append_nil _).symm, rfl⟩

theorem Journals.trans {ops ops' : List Operation} (h : Journals s s' ops) (h' : Journals s' s'' ops') :
    Journals s s'' (ops ++ ops') := by
  obtain ⟨all, he, rfl⟩ := h
  obtain ⟨all', he', rfl⟩ := h'
  exact ⟨all ++ all', by rw [he', he, List.append_assoc], List.filter_append ..⟩

theorem Cluster.Serves.journals {c : Call} {r : c.Result} (hs : s.Serves c r s')
    (hc : c.entries.filter (·.isStorageClassLifecycle) = []) : Journals s s' [] := by
  obtain ⟨ops, he, hsub⟩ := hs.frame.journal
  refine ⟨ops, he, List.filter_eq_nil_iff.2 fun op hop => ?_⟩
  exact List.filter_eq_nil_iff.1 hc op (hsub hop)

theorem Call.entries_of_not_writesStorageClass {c : Call} (hc : ¬ c.WritesStorageClass) :
    c.entries.filter (·.isStorageClassLifecycle) = [] := by
  cases c <;> first | rfl | exact absurd trivial hc

/-- No storage class and no group was touched. -/
structure Aside (s s' : Cluster) : Prop where
  groups : s'.groups = s.groups
  storageClasses : s'.storageClasses = s.storageClasses
  journal : Journals s s' []

theorem Aside.refl (s : Cluster) : Aside s s := ⟨rfl, rfl, .refl s⟩

theorem Aside.trans (h : Aside s s') (h' : Aside s' s'') : Aside s s'' :=
  ⟨h'.groups.trans h.groups, h'.storageClasses.trans h.storageClasses, h.journal.trans h'.journal⟩

theorem Cluster.Serves.aside {c : Call} {r : c.Result} (hs : s.Serves c r s') (hc : ¬ c.WritesStorageClass) :
    Aside s s' :=
  ⟨hs.frame.groups, hs.frame.storageClasses hc, hs.journals (Call.entries_of_not_writesStorageClass hc)⟩

/-! ### Storage classes that a pass writes -/

/-- A storage class with the provisioner of this library and the parameters of a class with its bindings. -/
def Realizes (c : LocalClass) (bindings : List Binding) (sc : StorageClass) : Prop :=
  sc.provisioner = Marks.provisioner ∧
    ∃ lvm, c.spec.lvm = some lvm ∧ sc.parameters = some (Materialization.parameters c.spec lvm bindings)

namespace Realizes

variable {c c' : LocalClass} {bindings : List Binding} {sc current : StorageClass}

theorem of_materialized (h : materialized c bindings = .ok sc) : Realizes c bindings sc := by
  obtain ⟨lvm, hlvm, rfl⟩ := materialized_eq_ok h
  exact ⟨rfl, lvm, hlvm, rfl⟩

theorem of_replacement (h : replacement c bindings current = .ok sc) : Realizes c bindings sc := by
  have hm := IsMaterialization.of_replacement h
  obtain ⟨lvm, hlvm, rfl⟩ := replacement_eq_ok h
  exact ⟨hm.provisioner, lvm, hlvm, Materialization.parameters_keepAnnotations _ _⟩

theorem of_spec (h : Realizes c' bindings sc) (hspec : c'.spec = c.spec) : Realizes c bindings sc := by
  unfold Realizes at h ⊢
  rwa [hspec] at h

theorem stamped (h : Realizes c bindings sc) (v : String) (d : Option Timestamp) :
    Realizes c bindings (stamped sc v d) := h

theorem drifted {inventory : List VolumeGroup} (h : Realizes c bindings sc) (hb : resolved inventory c = .ok bindings)
    (hprint : ∀ b ∈ bindings, b.IsPrintable) : drifted sc c bindings = .ok false := by
  obtain ⟨-, lvm, hlvm, hsc⟩ := h
  exact drifted_eq_false hlvm hb hprint hsc

end Realizes

/-- A replacement is as new: its deletion was not asked for. -/
theorem stamped_replacement {c : LocalClass} {bindings : List Binding} {current sc : StorageClass}
    (h : replacement c bindings current = .ok sc) (v : String) :
    stamped sc v none = { sc with metadata := { sc.metadata with resourceVersion := some v } } := by
  obtain ⟨lvm, -, rfl⟩ := replacement_eq_ok h
  have hlive (sc current : StorageClass) (hsc : sc.metadata.deletionTimestamp = none) :
      (Materialization.keepAnnotations sc current).metadata.deletionTimestamp = none := by
    unfold Materialization.keepAnnotations
    split <;> exact hsc
  simp only [Cluster.stamped, Resource.withMetadata, Resource.metadata]
  rw [← hlive (Materialization.storageClass c lvm bindings) current rfl]

/-! ### Flows -/

/-- The three ways in which a pass over a class may be done. -/
inductive Fulfils (n : String) (c : LocalClass) (s s' : Cluster) : Prop
  /-- The storage class is as it should be. -/
  | kept (bindings : List Binding) (current : StorageClass) :
    s'.groups = s.groups → resolved s.groups.values c = .ok bindings → current.isManaged = true →
    s.storageClasses.get? n = some current → drifted current c bindings = .ok false →
    s'.storageClasses.get? n = some current → Journals s s' [] → Fulfils n c s s'
  /-- The storage class is new. -/
  | created (bindings : List Binding) (sc : StorageClass) :
    s'.groups = s.groups → resolved s.groups.values c = .ok bindings → s.storageClasses.get? n = none →
    s'.storageClasses.get? n = some sc → Realizes c bindings sc →
    Journals s s' [.createStorageClass n] → Fulfils n c s s'
  /-- Another storage class has taken the place of one that had drifted. -/
  | recreated (bindings : List Binding) (current sc : StorageClass) (version : String) :
    s'.groups = s.groups → resolved s.groups.values c = .ok bindings →
    s.storageClasses.get? n = some current → drifted current c bindings = .ok true →
    replacement c bindings current = .ok sc → s'.storageClasses.get? n = some (stamped sc version none) →
    Journals s s' [.deleteStorageClass n, .createStorageClass n] → Fulfils n c s s'

namespace Fulfils

variable {c c' : LocalClass}

/-- What a pass has brought about stays when the status is written. -/
theorem aside (h : Fulfils n c s s') (ha : Aside s' s'') : Fulfils n c s s'' := by
  cases h with
  | kept bindings current hg hb hm hold hd hsc hj =>
    exact .kept bindings current (ha.groups.trans hg) hb hm hold hd (ha.storageClasses ▸ hsc) (hj.trans ha.journal)
  | created bindings sc hg hb hnone hsc hr hj =>
    exact .created bindings sc (ha.groups.trans hg) hb hnone (ha.storageClasses ▸ hsc) hr (hj.trans ha.journal)
  | recreated bindings current sc v hg hb hold hd hr hsc hj =>
    exact .recreated bindings current sc v (ha.groups.trans hg) hb hold hd hr (ha.storageClasses ▸ hsc)
      (hj.trans ha.journal)

end Fulfils

/-- If the pass is done, it has brought about what it should. -/
def Completes (n : String) (c : LocalClass) (s : Cluster) (r : Except Fault Outcome) (s' : Cluster) : Prop :=
  r = .ok .done → Fulfils n c s s'

namespace Pass

variable {c c' : LocalClass} {post : Except Fault Outcome → Cluster → Prop}

theorem ends_abandon (c : LocalClass) (e : Fault) : (abandon c e).Ends fun r => ∃ e', r = .error e' :=
  (Routine.Ends.trivial (fail c e)).bind fun e' _ => ⟨e', rfl⟩

theorem completes_abandon (c' : LocalClass) (e : Fault) {s₁ : Cluster} :
    Comes (Completes n c s) (abandon c' e) s₁ := by
  refine .of_ends (ends_abandon c' e) ?_
  rintro r s₂ ⟨e', rfl⟩ hdone
  simp at hdone

theorem completes_error {e : Fault} {s₁ : Cluster} : Comes (Completes n c s) (.done (.error e)) s₁ :=
  .done fun hdone => by simp at hdone

theorem completes_again {s₁ : Cluster} : Comes (Completes n c s) (.done (.ok .again)) s₁ :=
  .done fun hdone => by simp at hdone

theorem aside_setStatus (c : LocalClass) (status : ClassStatus) : Comes (fun _ => Aside s) (setStatus c status) s := by
  unfold setStatus
  split
  · exact .done (.refl s)
  · exact .call_done fun r s₁ hs => hs.aside id

theorem completes_succeed (c' : LocalClass) {s₁ : Cluster} (h : Fulfils n c s s₁) :
    Comes (Completes n c s) (succeed c') s₁ := by
  refine (aside_setStatus c' .created).bind fun r s₂ ha => ?_
  cases r with
  | ok _ => exact .done fun _ => h.aside ha
  | error e => exact completes_error

/-- Creation: the pass is done only if nothing was stored under the name. -/
theorem completes_createClass (hn : c'.name = n) (hspec : c'.spec = c.spec) {s₁ : Cluster} (ha : Aside s s₁)
    (classes : List StorageClass) : Comes (Completes n c s) (createClass n c' classes) s₁ := by
  refine .call fun r s₂ hs => ?_
  have ha₂ := ha.trans (hs.aside id)
  cases r with
  | error e => exact completes_abandon c' _
  | ok inventory =>
    obtain rfl : inventory = s.groups.values := ha.groups ▸ hs.eq_values
    dsimp only
    split
    · exact completes_abandon c' _
    · next desired hd =>
      split
      · exact completes_again
      refine .call fun r s₃ hs₃ => ?_
      rcases hs₃.createStorageClass with ⟨⟨e, rfl⟩, -⟩ | ⟨hnone, rfl, rfl⟩
      · dsimp only
        split
        · exact completes_again
        · exact completes_abandon c' e
      · obtain ⟨bindings, hb, hm⟩ := Except.eq_ok_of_bind hd
        have hkey : Resource.key desired = n := hn ▸ (IsMaterialization.of_materialized hm).key
        have hb' : resolved s.groups.values c = .ok bindings := by
          have hres := (judge_eq_ok_iff.1 hb).1
          rwa [resolved, resolveBindings, hspec] at hres
        rw [hkey, ha₂.storageClasses] at hnone
        refine completes_succeed c' (.created bindings _ ha₂.groups hb' hnone ?_
          (((Realizes.of_materialized hm).of_spec hspec).stamped s₂.nextVersion none) ?_)
        · rw [hkey, NameMap.get?_insert, if_pos rfl]
        · refine ha₂.journal.trans ⟨[.createStorageClass n], ?_, rfl⟩
          rw [hkey]

theorem completes_create (hn : c.name = n) (classes : List StorageClass) :
    Comes (Completes n c s) (create c classes) s := by
  cases hfin : c.hasFinalizer with
  | true =>
    rw [create_of_hasFinalizer hfin, hn]
    exact completes_createClass hn rfl (.refl s) classes
  | false =>
    rw [create_of_not_hasFinalizer hfin rfl]
    refine .call fun r s₁ hs => ?_
    have ha := hs.aside id
    cases r with
    | error e => exact completes_error
    | ok marked =>
      -- what is stored is the class with another finalizer and version
      obtain ⟨hn', hspec⟩ : marked.name = n ∧ marked.spec = c.spec := by
        rcases hs.replaceLocalClass with ⟨⟨e, he⟩, -⟩ | ⟨stored, -, -, he, -⟩
        · simp at he
        · obtain rfl := Except.ok.inj he
          exact ⟨hn, rfl⟩
      rw [hn]
      exact completes_createClass hn' hspec ha classes

/-- A deletion that succeeds is journaled. -/
theorem comes_deleteClass {current : StorageClass} (hname : current.metadata.name = some n) :
    Comes (fun r s' => r = .ok () → s'.groups = s.groups ∧ Journals s s' [.deleteStorageClass n])
      (deleteClass current) s := by
  have hdelete {s₁ : Cluster} (hg : s₁.groups = s.groups) (hj : Journals s s₁ []) :
      Comes (fun r s' => r = .ok () → s'.groups = s.groups ∧ Journals s s' [.deleteStorageClass n])
        (Routine.call (.deleteStorageClass n)) s₁ := by
    refine .call_done fun r s₂ hs => ?_
    rcases hs.deleteStorageClass with ⟨⟨e, rfl⟩, -⟩ | ⟨rfl, rfl⟩
    · intro he
      simp at he
    · exact fun _ => ⟨hg, hj.trans ⟨[.deleteStorageClass n], rfl, rfl⟩⟩
  unfold deleteClass
  rw [hname, Option.getD_some]
  dsimp only
  split
  · exact .done fun he => by simp at he
  · split
    · refine .call fun r s₁ hs => ?_
      cases r with
      | error e => exact .done fun he => by simp at he
      | ok sc => exact hdelete hs.frame.groups (hs.journals rfl)
    · exact hdelete rfl (.refl s)

/-- Creation in the place of a storage class that was deleted before. -/
theorem comes_recreate {current sc : StorageClass} (hname : current.metadata.name = some n)
    (hsc : IsMaterialization n sc) :
    Comes (fun r s' => r = .ok () → s'.groups = s.groups ∧
        (∃ v, s'.storageClasses.get? n = some (stamped sc v none)) ∧
        Journals s s' [.deleteStorageClass n, .createStorageClass n])
      (recreate current sc) s := by
  refine (comes_deleteClass hname).bind fun r s₁ hmid => ?_
  cases r with
  | error e => exact .done fun he => by simp at he
  | ok u =>
    obtain ⟨hg, hj⟩ := hmid rfl
    refine .call fun r s₂ hs => ?_
    rcases hs.createStorageClass with ⟨⟨e, rfl⟩, -⟩ | ⟨-, rfl, rfl⟩
    · exact .done fun he => by simp at he
    · refine .done fun _ => ⟨hg, ⟨s₁.nextVersion, ?_⟩, hj.trans ⟨[.createStorageClass n], ?_, rfl⟩⟩
      · rw [hsc.key, NameMap.get?_insert, if_pos rfl]
      · rw [hsc.key]

theorem completes_update (hs : Keyed s.storageClasses) (hn : c.name = n)
    (hflow : Finds c s.storageClasses.values .update) :
    Comes (Completes n c s) (update c s.storageClasses.values) s := by
  refine .call fun r s₁ hserved => ?_
  have ha := hserved.aside id
  cases r with
  | error e => exact completes_abandon c _
  | ok inventory =>
    obtain rfl := hserved.eq_values
    dsimp only
    split
    · exact completes_abandon c _
    · next current hrev =>
      obtain ⟨bindings, hb, hf, ⟨-, hd⟩ | ⟨sc, hsc, -⟩⟩ := revise_eq_ok_iff.1 hrev
      · obtain ⟨-, current', hf', hm, -⟩ := hflow
        obtain rfl := Option.some.inj (hf.symm.trans hf')
        have hold := ((findClass?_values_eq_some_iff hs).1 (hn ▸ hf)).1
        exact completes_succeed c (.kept bindings current ha.groups (judge_eq_ok_iff.1 hb).1 hm hold hd
          (ha.storageClasses ▸ hold) ha.journal)
      · simp at hsc
    · next current sc hrev =>
      obtain ⟨bindings, hb, hf, ⟨hsc, -⟩ | ⟨sc', hsc, hd, hr⟩⟩ := revise_eq_ok_iff.1 hrev
      · simp at hsc
      · obtain rfl := Option.some.inj hsc
        obtain ⟨hold, hname⟩ := (findClass?_values_eq_some_iff hs).1 (hn ▸ hf)
        refine (comes_recreate hname (hn ▸ .of_replacement hr)).bind fun r s₂ hmid => ?_
        cases r with
        | error e => exact completes_abandon c e
        | ok u =>
          obtain ⟨hg, ⟨v, hv⟩, hj⟩ := hmid rfl
          exact completes_succeed c (.recreated bindings current sc v (hg.trans ha.groups) (judge_eq_ok_iff.1 hb).1
            hold hd hr hv (ha.journal.trans hj))

theorem completes_nothing (hs : Keyed s.storageClasses) (hn : c.name = n)
    (hflow : Finds c s.storageClasses.values .nothing) : Completes n c s (.ok .done) s := by
  obtain ⟨-, current, hf, hm, hsel, bindings, hb, hd, -⟩ := hflow
  have hold := ((findClass?_values_eq_some_iff hs).1 (hn ▸ hf)).1
  rw [resolved_of_usesSelector hsel [] s.groups.values] at hb
  exact fun _ => .kept bindings current rfl hb hm hold hd hold (.refl s)

end Pass

/-! ### The pass -/

variable {c : LocalClass}

/-- A pass over a class that is not being deleted brings about what it should, if it is done. -/
theorem completes_reconcile (hs : Keyed s.storageClasses) (hn : c.name = n) (hlive : c.isBeingDeleted = false) :
    Comes (Completes n c s) (reconcile c) s := by
  rw [Pass.reconcile_eq]
  refine .call fun r s₁ hserved => ?_
  have ha := hserved.aside id
  rcases hserved.listStorageClasses with ⟨⟨e, rfl⟩, -⟩ | ⟨rfl, rfl⟩
  · exact Pass.completes_error
  dsimp only
  unfold Pass.proceed
  split
  · exact .record (Pass.completes_abandon c _)
  · next flow hflow =>
    have hfinds := finds_of_identifyFlow hflow
    refine Comes.bind (q := Completes n c s₁) ?_ fun r s₂ hr => .record (.done hr)
    cases flow with
    | create => exact Pass.completes_create hn _
    | update => exact Pass.completes_update hs hn hfinds
    | delete =>
      have hdeleted : c.isBeingDeleted = true := hfinds
      exact absurd (hlive.symm.trans hdeleted) Bool.false_ne_true
    | nothing => exact .done (Pass.completes_nothing hs hn hfinds)

/-- **A pass that is done has put its class into effect.**  Nobody else acts, and calls fail anywhere.  If a pass over a
class that is not being deleted is done all the same, the storage class of its name has the provisioner of this library
and does not differ from what the class asks for with the groups that there are.  A storage class was created if there
was none, deleted and created once more if it differed, and otherwise none came or went; one that was created in the
place of another is the replacement of that. -/
theorem drifted_eq_false_of_done (hs : s.Arises) (hn : c.metadata.name = some n) (hlive : c.isBeingDeleted = false)
    (hprint : ∀ bindings, resolved s.groups.values c = .ok bindings → ∀ b ∈ bindings, b.IsPrintable)
    (hrun : (reconcile c).Progress undisturbed s (.done (.ok .done)) s') :
    ∃ bindings sc, resolved s'.groups.values c = .ok bindings ∧ s'.groups = s.groups ∧
      s'.storageClasses.get? n = some sc ∧ sc.provisioner = Marks.provisioner ∧
      drifted sc c bindings = .ok false ∧
      (s.storageClasses.get? n = none → Journals s s' [.createStorageClass n]) ∧
      ∀ old, s.storageClasses.get? n = some old →
        (drifted old c bindings = .ok true →
          Journals s s' [.deleteStorageClass n, .createStorageClass n] ∧
          ∃ new v, replacement c bindings old = .ok new ∧
            sc = { new with metadata := { new.metadata with resourceVersion := some v } }) ∧
        (drifted old c bindings ≠ .ok true → Journals s s' []) := by
  have hname : c.name = n := Metadata.nameOrUnknown_of_name hn
  obtain ⟨-, hend⟩ := Routine.Keeps.progress (completes_reconcile hs.tidy.storageClasses hname hlive) trivial
    (fun _ _ _ _ => trivial) hrun
  have hfulfils : Fulfils n c s s' := hend s' rfl trivial rfl
  cases hfulfils with
  | kept bindings current hg hb hm hold hd hsc hj =>
    refine ⟨bindings, current, hg ▸ hb, hg, hsc, by simpa [StorageClass.isManaged] using hm, hd, ?_, ?_⟩
    · intro hnone
      simp [hold] at hnone
    · intro old hold'
      obtain rfl := Option.some.inj (hold.symm.trans hold')
      exact ⟨fun ht => by simp [hd] at ht, fun _ => hj⟩
  | created bindings sc hg hb hnone hsc hr hj =>
    refine ⟨bindings, sc, hg ▸ hb, hg, hsc, hr.1, hr.drifted hb (hprint bindings hb), fun _ => hj, ?_⟩
    intro old hold
    simp [hnone] at hold
  | recreated bindings current sc v hg hb hold hd hrep hsc hj =>
    have hr := (Realizes.of_replacement hrep).stamped v none
    refine ⟨bindings, _, hg ▸ hb, hg, hsc, hr.1, hr.drifted hb (hprint bindings hb), ?_, ?_⟩
    · intro hnone
      simp [hold] at hnone
    · intro old hold'
      obtain rfl := Option.some.inj (hold.symm.trans hold')
      exact ⟨fun _ => ⟨hj, sc, v, hrep, stamped_replacement hrep v⟩, fun hne => absurd hd hne⟩

/-- The first pass over a class is done, and has created the storage class. -/
theorem drifted_eq_false_of_done_first_pass :
    ∃ bindings sc, resolved Sample.firstPass.2.cluster.groups.values Sample.storedClass = .ok bindings ∧
      Sample.firstPass.2.cluster.storageClasses.get? "local" = some sc ∧
      drifted sc Sample.storedClass bindings = .ok false ∧
      Journals Sample.cluster Sample.firstPass.2.cluster [.createStorageClass "local"] := by
  have hrun := Simulation.progress_run undisturbed .ofRoutine (reconcile Sample.storedClass)
    { cluster := Sample.cluster } 0
  have e : Sample.firstPass = Simulation.run .ofRoutine [] (reconcile Sample.storedClass)
      { cluster := Sample.cluster } 0 := by
    rw [Sample.firstPass]
    rfl
  have hdone : Sample.firstPass.1 = .ok .done := Except.eq_ok_of_toOption (by decide +kernel)
  rw [← e, hdone] at hrun
  have hb : resolved Sample.cluster.groups.values Sample.storedClass = .ok [⟨"vg-1", none⟩] :=
    Except.eq_ok_of_toOption (by decide +kernel)
  obtain ⟨bindings, sc, hres, -, hsc, -, hd, hcreated, -⟩ := drifted_eq_false_of_done (n := "local")
    Sample.arises_cluster (by decide +kernel) (by decide +kernel)
    (fun bindings hbindings b hmem => by
      obtain rfl := Except.ok.inj (hb.symm.trans hbindings)
      obtain rfl := List.mem_singleton.1 hmem
      exact ⟨by decide, by simp⟩) hrun
  exact ⟨bindings, sc, hres, hsc, hd, hcreated (by decide +kernel)⟩

end LocalVolumes
