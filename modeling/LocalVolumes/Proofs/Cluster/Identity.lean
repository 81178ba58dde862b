import LocalVolumes.Proofs.Cluster.Frame
import LocalVolumes.Proofs.Cluster.States
import Mathlib.Logic.Relation
import Std.Data.String.ToNat

/-!
# LocalVolumes.Proofs.Cluster.Identity — an object is known by its version

Who writes an object under the version that was read relies on the version to stand for what was read.  A step of a
cluster stores one object at most that was not there before, and that one has the next version.  So a version that is
read stands for one object of all kinds and names, also when the object is gone and another one has its name, and a
replacement under that version meets what was read.
-/

namespace LocalVolumes

/-- An object that clients can replace. -/
inductive Object
  | storageClass (c : StorageClass)
  | localClass (c : LocalClass)
  | volume (v : LogicalVolume)

namespace Object

/-- The version that an object carries. -/
def version? : Object → Option String
  | .storageClass c => c.metadata.resourceVersion
  | .localClass c => c.metadata.resourceVersion
  | .volume v => v.metadata.resourceVersion

/-- The name under which an object is stored. -/
def key : Object → String
  | .storageClass c => Resource.key c
  | .localClass c => Resource.key c
  | .volume v => Resource.key v

end Object

namespace Call

/-- An answer shows an object. -/
def Shows : (c : Call) → c.Answer → Object → Prop
  | .listStorageClasses, cs, o => ∃ c ∈ cs, o = .storageClass c
  | .getStorageClass _, found, o => ∃ c ∈ found, o = .storageClass c
  | .createStorageClass _, c, o => o = .storageClass c
  | .replaceStorageClass _, c, o => o = .storageClass c
  | .listLocalClasses, cs, o => ∃ c ∈ cs, o = .localClass c
  | .getLocalClass _, found, o => ∃ c ∈ found, o = .localClass c
  | .replaceLocalClass _, c, o => o = .localClass c
  | .replaceLocalClassStatus _, c, o => o = .localClass c
  | .createVolume _, v, o => o = .volume v
  | .getVolume _, found, o => ∃ v ∈ found, o = .volume v
  | .replaceVolume _, v, o => o = .volume v
  | _, _, _ => False

/-- What a replacement puts in the place of what is stored. -/
def replacement? : Call → Option Object
  | .replaceStorageClass c => some (.storageClass c)
  | .replaceLocalClass c => some (.localClass c)
  | .replaceLocalClassStatus c => some (.localClass c)
  | .replaceVolume v => some (.volume v)
  | _ => none

end Call

namespace Cluster

/-! ### Tables -/

section Tables

variable {α : Type} [Resource α] {m : NameMap α} {n v : String}

/-- The objects of the second table were in the first, but for one at most, which carries a version. -/
def Rewritten (v : String) (made : Option α) (m m' : NameMap α) : Prop :=
  (∀ a ∈ made, (Resource.metadata a).resourceVersion = some v) ∧
    ∀ n a, m'.get? n = some a → m.get? n = some a ∨ a ∈ made

theorem Rewritten.insert {a : α} (ha : (Resource.metadata a).resourceVersion = some v) :
    Rewritten v (some a) m (m.insert n a) := by
  refine ⟨fun b hb => Option.some.inj hb ▸ ha, fun k b hb => ?_⟩
  rw [NameMap.get?_insert] at hb
  split at hb
  · exact .inr hb
  · exact .inl hb

theorem Rewritten.settled {a : α} (ha : (Resource.metadata a).resourceVersion = some v) :
    Rewritten v (some a) m (settled m n a) := by
  refine ⟨fun b hb => Option.some.inj hb ▸ ha, fun k b hb => ?_⟩
  by_cases hk : k = n
  · subst hk
    exact .inr (congrArg some (get?_settled_self hb).symm)
  · exact .inl (get?_settled_ne a hk ▸ hb)

variable [LawfulResource α]

theorem Rewritten.putObject (m : NameMap α) (a : α) (v : String) : ∃ made, Rewritten v made m (putObject m a v) :=
  ⟨_, .insert (by simp [LawfulResource.metadata_withMetadata])⟩

/-- A deletion makes an object that is marked, or none. -/
theorem Rewritten.markDeleted (m : NameMap α) (n v : String) (now : Timestamp) :
    ∃ made, Rewritten v made m (markDeleted m n v now) := by
  have hsame (k : String) (b : α) (hk : k ≠ n) (hb : (Cluster.markDeleted m n v now).get? k = some b) :
      m.get? k = some b := (get?_markDeleted_ne hk).symm.trans hb
  cases hm : (Cluster.markDeleted m n v now).get? n with
  | none =>
    refine ⟨none, by simp, fun k b hb => .inl (hsame k b ?_ hb)⟩
    rintro rfl
    simp [hm] at hb
  | some b =>
    obtain ⟨a, ha, -, ⟨-, rfl⟩ | ⟨-, rfl⟩⟩ := get?_markDeleted_self hm
    · refine ⟨none, by simp, fun k c hc => .inl ?_⟩
      by_cases hk : k = n
      · subst hk
        rw [ha, ← hc, hm]
      · exact hsame k c hk hc
    · refine ⟨some (stamped a v (some now)), by simp, fun k c hc => ?_⟩
      by_cases hk : k = n
      · subst hk
        exact .inr (hm ▸ hc)
      · exact .inl (hsame k c hk hc)

end Tables

/-! ### What a step stores -/

variable {s s' : Cluster} {made : Option Object} {n : String}

/-- An object is stored under a name. -/
def Holds (s : Cluster) (n : String) : Object → Prop
  | .storageClass c => s.storageClasses.get? n = some c
  | .localClass c => s.localClasses.get? n = some c
  | .volume v => s.volumes.get? n = some v

theorem Holds.storageClass {c : StorageClass} (h : s'.Holds n (.storageClass c))
    (he : s'.storageClasses = s.storageClasses) : s.Holds n (.storageClass c) := by
  rwa [Holds, he] at h

theorem Holds.localClass {c : LocalClass} (h : s'.Holds n (.localClass c))
    (he : s'.localClasses = s.localClasses) : s.Holds n (.localClass c) := by
  rwa [Holds, he] at h

theorem Holds.volume {v : LogicalVolume} (h : s'.Holds n (.volume v)) (he : s'.volumes = s.volumes) :
    s.Holds n (.volume v) := by
  rwa [Holds, he] at h

/-- The objects of the second state were in the first, but for one at most, which carries the next version. -/
structure Makes (made : Option Object) (s s' : Cluster) : Prop where
  version_le : s.version ≤ s'.version
  dated : ∀ o ∈ made, s.version < s'.version ∧ o.version? = some s.nextVersion
  held : ∀ n o, s'.Holds n o → s.Holds n o ∨ o ∈ made

theorem Makes.of_eq (hv : s.version ≤ s'.version) (hs : s'.storageClasses = s.storageClasses)
    (hl : s'.localClasses = s.localClasses) (hvol : s'.volumes = s.volumes) : Makes none s s' where
  version_le := hv
  dated := by simp
  held n o ho := by
    cases o with
    | storageClass c => exact .inl (ho.storageClass hs)
    | localClass c => exact .inl (ho.localClass hl)
    | volume v => exact .inl (ho.volume hvol)

theorem Makes.refl (s : Cluster) : Makes none s s := .of_eq (Nat.le_refl _) rfl rfl rfl

theorem Rests.makes (h : s.Rests s') : Makes none s s' :=
  .of_eq h.version_le h.storageClasses h.localClasses h.volumes

section Write

variable (hv : s'.version = s.version + 1)

include hv

/-- A write of the storage classes, under the next version. -/
theorem Makes.storageClasses {made : Option StorageClass}
    (h : Rewritten s.nextVersion made s.storageClasses s'.storageClasses) (hl : s'.localClasses = s.localClasses)
    (hvol : s'.volumes = s.volumes) : Makes (made.map .storageClass) s s' where
  version_le := by omega
  dated o ho := by
    obtain ⟨c, hc, rfl⟩ := Option.map_eq_some_iff.1 ho
    exact ⟨by omega, h.1 c hc⟩
  held n o ho := by
    cases o with
    | storageClass c => exact (h.2 n c ho).imp id fun hc => Option.map_eq_some_iff.2 ⟨c, hc, rfl⟩
    | localClass c => exact .inl (ho.localClass hl)
    | volume v => exact .inl (ho.volume hvol)

/-- A write of the local classes. -/
theorem Makes.localClasses {made : Option LocalClass}
    (h : Rewritten s.nextVersion made s.localClasses s'.localClasses) (hs : s'.storageClasses = s.storageClasses)
    (hvol : s'.volumes = s.volumes) : Makes (made.map .localClass) s s' where
  version_le := by omega
  dated o ho := by
    obtain ⟨c, hc, rfl⟩ := Option.map_eq_some_iff.1 ho
    exact ⟨by omega, h.1 c hc⟩
  held n o ho := by
    cases o with
    | storageClass c => exact .inl (ho.storageClass hs)
    | localClass c => exact (h.2 n c ho).imp id fun hc => Option.map_eq_some_iff.2 ⟨c, hc, rfl⟩
    | volume v => exact .inl (ho.volume hvol)

/-- A write of the volumes. -/
theorem Makes.volumes {made : Option LogicalVolume} (h : Rewritten s.nextVersion made s.volumes s'.volumes)
    (hs : s'.storageClasses = s.storageClasses) (hl : s'.localClasses = s.localClasses) :
    Makes (made.map .volume) s s' where
  version_le := by omega
  dated o ho := by
    obtain ⟨v, hc, rfl⟩ := Option.map_eq_some_iff.1 ho
    exact ⟨by omega, h.1 v hc⟩
  held n o ho := by
    cases o with
    | storageClass c => exact .inl (ho.storageClass hs)
    | localClass c => exact .inl (ho.localClass hl)
    | volume v => exact (h.2 n v ho).imp id fun hc => Option.map_eq_some_iff.2 ⟨v, hc, rfl⟩

end Write

/-- What comes of a call: one object at most is made, and what the answer shows is stored, or was made. -/
def MakesShown (s : Cluster) (c : Call) (r : c.Result) (s' : Cluster) : Prop :=
  ∃ made, Makes made s s' ∧ ∀ a o, r = .ok a → c.Shows a o → (∃ n, s'.Holds n o) ∨ o ∈ made

theorem Fails.makesShown {c : Call} {r : c.Result} (h : s.Fails r s') : s.MakesShown c r s' := by
  obtain ⟨⟨e, rfl⟩, hr⟩ := h
  exact ⟨none, hr.makes, fun a o ha => by simp at ha⟩

/-- **Every call stores one object at most that was not there before.** -/
theorem Serves.makesShown {c : Call} {r : c.Result} (hs : s.Serves c r s') : s.MakesShown c r s' := by
  cases c with
  | listStorageClasses =>
    rcases hs.listStorageClasses with hf | ⟨rfl, rfl⟩
    · exact hf.makesShown
    · refine ⟨none, .refl _, fun a o ha ho => .inl ?_⟩
      obtain rfl := Except.ok.inj ha
      obtain ⟨c, hc, rfl⟩ := ho
      exact NameMap.mem_values_iff.1 hc
  | getStorageClass name =>
    rcases hs.getStorageClass with hf | ⟨rfl, rfl⟩
    · exact hf.makesShown
    · refine ⟨none, .refl _, fun a o ha ho => .inl ?_⟩
      obtain rfl := Except.ok.inj ha
      obtain ⟨c, hc, rfl⟩ := ho
      exact ⟨name, hc⟩
  | createStorageClass c =>
    rcases hs.createStorageClass with hf | ⟨-, rfl, rfl⟩
    · exact hf.makesShown
    · refine ⟨_, .storageClasses rfl (.insert rfl) rfl rfl, fun a o ha ho => .inr ?_⟩
      obtain rfl := Except.ok.inj ha
      exact congrArg some ho.symm
  | replaceStorageClass c =>
    rcases hs.replaceStorageClass with hf | ⟨stored, -, -, rfl, rfl⟩
    · exact hf.makesShown
    · refine ⟨_, .storageClasses rfl (.settled rfl) rfl rfl, fun a o ha ho => .inr ?_⟩
      obtain rfl := Except.ok.inj ha
      exact congrArg some ho.symm
  | deleteStorageClass name =>
    rcases hs.deleteStorageClass with hf | ⟨-, rfl⟩
    · exact hf.makesShown
    · obtain ⟨made, hm⟩ := Rewritten.markDeleted s.storageClasses name s.nextVersion s.now
      exact ⟨_, .storageClasses rfl hm rfl rfl, fun a o _ ho => ho.elim⟩
  | listLocalClasses =>
    rcases hs.listLocalClasses with hf | ⟨rfl, rfl⟩
    · exact hf.makesShown
    · refine ⟨none, .refl _, fun a o ha ho => .inl ?_⟩
      obtain rfl := Except.ok.inj ha
      obtain ⟨c, hc, rfl⟩ := ho
      exact NameMap.mem_values_iff.1 hc
  | getLocalClass name =>
    rcases hs.getLocalClass with hf | ⟨rfl, rfl⟩
    · exact hf.makesShown
    · refine ⟨none, .refl _, fun a o ha ho => .inl ?_⟩
      obtain rfl := Except.ok.inj ha
      obtain ⟨c, hc, rfl⟩ := ho
      exact ⟨name, hc⟩
  | replaceLocalClass c =>
    rcases hs.replaceLocalClass with hf | ⟨stored, -, -, rfl, rfl⟩
    · exact hf.makesShown
    · refine ⟨_, .localClasses rfl (.settled rfl) rfl rfl, fun a o ha ho => .inr ?_⟩
      obtain rfl := Except.ok.inj ha
      exact congrArg some ho.symm
  | replaceLocalClassStatus c =>
    rcases hs.replaceLocalClassStatus with hf | ⟨stored, -, -, rfl, rfl⟩
    · exact hf.makesShown
    · refine ⟨_, .localClasses rfl (.settled rfl) rfl rfl, fun a o ha ho => .inr ?_⟩
      obtain rfl := Except.ok.inj ha
      exact congrArg some ho.symm
  | listVolumeGroups =>
    rcases hs.listVolumeGroups with hf | ⟨-, rfl⟩
    · exact hf.makesShown
    · exact ⟨none, .refl _, fun a o _ ho => ho.elim⟩
  | getVolumeGroup name =>
    rcases hs.getVolumeGroup with hf | ⟨-, rfl⟩
    · exact hf.makesShown
    · exact ⟨none, .refl _, fun a o _ ho => ho.elim⟩
  | createVolume v =>
    rcases hs.createVolume with hf | ⟨-, rfl, rfl⟩
    · exact hf.makesShown
    · refine ⟨_, .volumes rfl (.insert rfl) rfl rfl, fun a o ha ho => .inr ?_⟩
      obtain rfl := Except.ok.inj ha
      exact congrArg some ho.symm
  | getVolume name =>
    -- a look may store what the node reports, and shows the volume as it is stored then
    have hshown (a : Option LogicalVolume) (o : Object) (ha : r = .ok a) (ho : ∃ v ∈ a, o = .volume v) :
        ∃ n, s'.Holds n o := by
      subst ha
      obtain ⟨v, hv, rfl⟩ := ho
      exact ⟨name, hs.get?_of_getVolume.trans hv⟩
    rcases hs.getVolume with hf | ⟨-, -, rfl⟩ | ⟨v, ver, vols, ps, -, rfl, hle, -, rfl | ⟨status, rfl, rfl⟩⟩
    · exact hf.makesShown
    · exact ⟨none, .refl _, fun a o ha ho => .inl (hshown a o ha ho)⟩
    · exact ⟨none, .of_eq hle rfl rfl rfl, fun a o ha ho => .inl (hshown a o ha ho)⟩
    · exact ⟨_, .volumes rfl (.insert rfl) rfl rfl, fun a o ha ho => .inl (hshown a o ha ho)⟩
  | replaceVolume v =>
    rcases hs.replaceVolume with hf | ⟨stored, resized, ps, -, -, rfl, rfl⟩
    · exact hf.makesShown
    · refine ⟨_, .volumes rfl (.settled rfl) rfl rfl, fun a o ha ho => .inr ?_⟩
      obtain rfl := Except.ok.inj ha
      exact congrArg some ho.symm
  | deleteVolume name =>
    rcases hs.deleteVolume with hf | ⟨-, rfl⟩
    · exact hf.makesShown
    · obtain ⟨made, hm⟩ := Rewritten.markDeleted s.volumes name s.nextVersion s.now
      exact ⟨_, .volumes rfl hm rfl rfl, fun a o _ ho => ho.elim⟩

/-- **Every intervention stores one object at most that was not there before.** -/
theorem makes_intervene (s : Cluster) (i : Intervention) : ∃ made, Makes made s (s.intervene i) := by
  cases i with
  | putStorageClass c =>
    obtain ⟨made, hm⟩ := Rewritten.putObject s.storageClasses c s.nextVersion
    exact ⟨_, .storageClasses rfl hm rfl rfl⟩
  | putLocalClass c =>
    obtain ⟨made, hm⟩ := Rewritten.putObject s.localClasses c s.nextVersion
    exact ⟨_, .localClasses rfl hm rfl rfl⟩
  | putVolumeGroup g => exact ⟨none, .of_eq (Nat.le_succ _) rfl rfl rfl⟩
  | putVolume v =>
    obtain ⟨made, hm⟩ := Rewritten.putObject s.volumes v s.nextVersion
    exact ⟨_, .volumes rfl hm rfl rfl⟩
  | deleteLocalClass name =>
    obtain ⟨made, hm⟩ := Rewritten.markDeleted s.localClasses name s.nextVersion s.now
    exact ⟨_, .localClasses rfl hm rfl rfl⟩
  | reportVolume name status =>
    simp only [Cluster.intervene]
    split
    · exact ⟨none, .of_eq (Nat.le_succ _) rfl rfl rfl⟩
    · exact ⟨_, .volumes rfl (.insert rfl) rfl rfl⟩
  | setConvergence c => exact ⟨none, .of_eq (Nat.le_refl _) rfl rfl rfl⟩
  | planFailure op e => exact ⟨none, .of_eq (Nat.le_refl _) rfl rfl rfl⟩
  | setTime now => exact ⟨none, .of_eq (Nat.le_refl _) rfl rfl rfl⟩

/-! ### What a version stands for -/

/-- The version of an object was given to it, and nothing else that is stored carries it. -/
def Identifies (s : Cluster) (o : Object) : Prop :=
  ∃ k ≤ s.version, o.version? = some (toString k) ∧ ∀ n o', s.Holds n o' → o'.version? = o.version? → o' = o

/-- Whatever is stored is identified by its version. -/
def Distinct (s : Cluster) : Prop := ∀ n o, s.Holds n o → s.Identifies o

/-- What is identified once stays so. -/
theorem Makes.identifies (h : Makes made s s') {o : Object} (ho : s.Identifies o) : s'.Identifies o := by
  obtain ⟨k, hk, hv, hunique⟩ := ho
  refine ⟨k, Nat.le_trans hk h.version_le, hv, fun n o' ho' he => ?_⟩
  rcases h.held n o' ho' with hold | hmade
  · exact hunique n o' hold he
  · -- what is made has a version past all that were given before
    have hnext : some (toString (s.version + 1)) = some (toString k) := ((h.dated o' hmade).2.symm.trans he).trans hv
    have : s.version + 1 = k := Nat.repr_inj.1 (Option.some.inj hnext)
    omega

/-- What is made is identified by the version that no other object has had. -/
theorem Makes.identifies_made (h : Makes made s s') (hs : s.Distinct) {o : Object} (ho : o ∈ made) :
    s'.Identifies o := by
  obtain ⟨hlt, hv⟩ := h.dated o ho
  refine ⟨s.version + 1, hlt, hv, fun n o' ho' he => ?_⟩
  rcases h.held n o' ho' with hold | hmade
  · obtain ⟨k, hk, hv', -⟩ := hs n o' hold
    have hnext : some (toString (s.version + 1)) = some (toString k) := (hv.symm.trans he.symm).trans hv'
    have : s.version + 1 = k := Nat.repr_inj.1 (Option.some.inj hnext)
    omega
  · exact Option.some.inj (hmade.symm.trans ho)

theorem Makes.distinct (h : Makes made s s') (hs : s.Distinct) : s'.Distinct := by
  intro n o ho
  rcases h.held n o ho with hold | hmade
  · exact h.identifies (hs n o hold)
  · exact h.identifies_made hs hmade

/-- **Whatever is stored is identified by its version.** -/
theorem Arises.distinct (h : s.Arises) : s.Distinct := by
  induction h with
  | empty =>
    intro n o ho
    cases o <;> exact absurd ho (by simp [Holds])
  | @answer s c _ ih =>
    obtain ⟨made, hm, -⟩ := (serves_answer s c).makesShown
    exact hm.distinct ih
  | @intervene s i _ ih =>
    obtain ⟨made, hm⟩ := makes_intervene s i
    exact hm.distinct ih

/-- What is shown is identified from then on. -/
theorem Serves.identifies_shown {c : Call} {a : c.Answer} {o : Object} (h : s.Serves c (.ok a) s') (hs : s.Distinct)
    (ho : c.Shows a o) : s'.Identifies o := by
  obtain ⟨made, hm, hshown⟩ := h.makesShown
  rcases hshown a o rfl ho with ⟨n, hn⟩ | hmade
  · exact hm.distinct hs n o hn
  · exact hm.identifies_made hs hmade

/-! ### Runs -/

/-- A step of a cluster: an answer to a call, or an intervention. -/
inductive Step : Cluster → Cluster → Prop
  | answer (s : Cluster) (c : Call) : Step s (s.answer c).2
  | intervene (s : Cluster) (i : Intervention) : Step s (s.intervene i)

/-- A run of a cluster. -/
abbrev Run : Cluster → Cluster → Prop := Relation.ReflTransGen Step

theorem Step.makes (h : Step s s') : ∃ made, Makes made s s' := by
  cases h with
  | answer c =>
    obtain ⟨made, hm, -⟩ := (serves_answer s c).makesShown
    exact ⟨made, hm⟩
  | intervene i => exact makes_intervene s i

theorem Serves.run {c : Call} {r : c.Result} (h : s.Serves c r s') : Run s s' := by
  rcases h with h | ⟨-, rfl⟩
  · have he : s' = (s.answer c).2 := by rw [h]
    exact he ▸ .single (.answer s c)
  · exact .refl

theorem Run.arises (h : Run s s') (hs : s.Arises) : s'.Arises := by
  induction h with
  | refl => exact hs
  | tail _ hstep ih =>
    cases hstep with
    | answer c => exact ih.answer c
    | intervene i => exact ih.intervene i

/-- A version that was given stands for its object in all that follows. -/
theorem Run.identifies {o : Object} (h : Run s s') (ho : s.Identifies o) : s'.Identifies o := by
  induction h with
  | refl => exact ho
  | tail _ hstep ih =>
    obtain ⟨made, hm⟩ := hstep.makes
    exact hm.identifies ih

/-- A replacement that succeeds meets an object, with the version that it carries if it carries one. -/
theorem Serves.exists_met {w : Call} {b : w.Answer} {request : Object} (h : s.Serves w (.ok b) s')
    (hw : w.replacement? = some request) :
    ∃ o, s.Holds request.key o ∧ (request.version? = none ∨ o.version? = request.version?) := by
  have hmet {α : Type} [Resource α] {stored a : α} (hc : isCurrent stored a = true) :
      (Resource.metadata a).resourceVersion = none ∨
        (Resource.metadata stored).resourceVersion = (Resource.metadata a).resourceVersion := by
    unfold isCurrent at hc
    split at hc
    · next hn => exact .inl hn
    · next v hv => exact .inr ((beq_iff_eq.1 hc).trans hv.symm)
  cases w with
  | replaceStorageClass c =>
    obtain rfl := Option.some.inj hw
    rcases h.replaceStorageClass with ⟨⟨e, he⟩, -⟩ | ⟨stored, hstored, hc, -⟩
    · simp at he
    · exact ⟨.storageClass stored, hstored, hmet hc⟩
  | replaceLocalClass c =>
    obtain rfl := Option.some.inj hw
    rcases h.replaceLocalClass with ⟨⟨e, he⟩, -⟩ | ⟨stored, hstored, hc, -⟩
    · simp at he
    · exact ⟨.localClass stored, hstored, hmet hc⟩
  | replaceLocalClassStatus c =>
    obtain rfl := Option.some.inj hw
    rcases h.replaceLocalClassStatus with ⟨⟨e, he⟩, -⟩ | ⟨stored, hstored, hc, -⟩
    · simp at he
    · exact ⟨.localClass stored, hstored, hmet hc⟩
  | replaceVolume v =>
    obtain rfl := Option.some.inj hw
    rcases h.replaceVolume with ⟨⟨e, he⟩, -⟩ | ⟨stored, resized, ps, hstored, hc, -⟩
    · simp at he
    · exact ⟨.volume stored, hstored, hmet hc⟩
  | _ => simp [Call.replacement?] at hw

/-- An object that a replacement meets under the version of one that was read. -/
theorem Identifies.holds_of_replacement {w : Call} {b : w.Answer} {o request : Object} (ho : s.Identifies o)
    (hw : w.replacement? = some request) (hv : request.version? = o.version?) (h : s.Serves w (.ok b) s') :
    s.Holds request.key o := by
  obtain ⟨o', hheld, hnone | hsame⟩ := h.exists_met hw
  · -- a request without a version is let through anyhow, but this one has the version that was read
    obtain ⟨k, -, hk, -⟩ := ho
    rw [← hv, hnone] at hk
    simp at hk
  · obtain ⟨k, -, -, hunique⟩ := ho
    exact hunique _ o' hheld (hsame.trans hv) ▸ hheld

theorem Tidy.key_of_holds (h : s.Tidy) {n : String} {o : Object} (ho : s.Holds n o) : o.key = n := by
  cases o with
  | storageClass c => exact h.storageClasses n c ho
  | localClass c => exact h.localClasses n c ho
  | volume v => exact h.volumes n v ho

end Cluster

/-- **No update is lost.**  A client reads an object in some state of a cluster, and any calls of any clients,
insertions, deletions, reports on volumes and looks at volumes that converge follow.  If then a replacement succeeds
under the version that was read, it is one of the object that was read, which is stored just then as it was read. -/
theorem no_update_is_lost {s s₁ : Cluster} {c w : Call} {a : c.Answer} {b : w.Answer} {o request : Object}
    (hs : s.Arises) (hread : (s.answer c).1 = .ok a) (hshows : c.Shows a o) (hrun : Cluster.Run (s.answer c).2 s₁)
    (hw : w.replacement? = some request) (hv : request.version? = o.version?) (hok : (s₁.answer w).1 = .ok b) :
    request.key = o.key ∧ s₁.Holds o.key o := by
  have hserves : s.Serves c (.ok a) (s.answer c).2 := hread ▸ Cluster.serves_answer s c
  have hmeets : s₁.Serves w (.ok b) (s₁.answer w).2 := hok ▸ Cluster.serves_answer s₁ w
  have hidentified : s₁.Identifies o := hrun.identifies (hserves.identifies_shown hs.distinct hshows)
  have hheld : s₁.Holds request.key o := hidentified.holds_of_replacement hw hv hmeets
  have hkey : o.key = request.key := (hrun.arises (hs.answer c)).tidy.key_of_holds hheld
  exact ⟨hkey.symm, hkey ▸ hheld⟩

namespace Sample

/-- A storage class of some client. -/
def fastClass : StorageClass := { metadata := { name := some "fast" }, provisioner := "other.csi" }

/-- A cluster with the storage class. -/
def stock : Cluster := ({} : Cluster).intervene (.putStorageClass fastClass)

/-- The cluster after another client has made a storage class of its own. -/
def restock : Cluster :=
  (stock.answer (.createStorageClass { fastClass with metadata := { name := some "slow" } })).2

/-- The storage class as it is read. -/
def readClass : StorageClass := Cluster.stamped fastClass "1" none

/-- The storage class as the client writes it. -/
def expandableClass : StorageClass := { readClass with allowVolumeExpansion := some true }

end Sample

/-- A client reads a storage class and writes it after another one was made. -/
theorem no_update_is_lost_restock :
    (Sample.stock.answer (.getStorageClass "fast")).1 = .ok (some Sample.readClass) ∧
      (∃ sc, (Sample.restock.answer (.replaceStorageClass Sample.expandableClass)).1 = .ok sc) ∧
      Sample.restock.Holds "fast" (.storageClass Sample.readClass) := by
  have hs : Sample.stock.Arises := .intervene _ .empty
  have hread : (Sample.stock.answer (.getStorageClass "fast")).1 = .ok (some Sample.readClass) := rfl
  have hrun : Cluster.Run (Sample.stock.answer (.getStorageClass "fast")).2 Sample.restock := .single (.answer _ _)
  have hw : (Call.replaceStorageClass Sample.expandableClass).replacement? =
    some (.storageClass Sample.expandableClass) := rfl
  obtain ⟨sc, hsc⟩ : ∃ sc, (Sample.restock.answer (.replaceStorageClass Sample.expandableClass)).1 = .ok sc :=
    ⟨_, rfl⟩
  exact ⟨hread, ⟨sc, hsc⟩, (no_update_is_lost hs hread ⟨_, rfl, rfl⟩ hrun hw rfl hsc).2⟩

end LocalVolumes
