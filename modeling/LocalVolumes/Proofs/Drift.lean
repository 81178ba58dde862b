import LocalVolumes.Causes
import LocalVolumes.Proofs.Parameters
import LocalVolumes.Proofs.Resolution
import Mathlib.Data.List.Perm.Subperm

/-!
# LocalVolumes.Proofs.Drift — when a storage class is as it should be

A storage class is compared with its local class by the cleanup of volumes and by the bindings, whose names are compared
by number and one by one.  As the bindings that should be there have different names, this is enough: nothing differs
just if the names are the same, each as often as it should be.  A storage class that a pass has written is as it should
be.
-/

namespace LocalVolumes

theorem resolved_eq_ok_iff {inventory : List VolumeGroup} {c : LocalClass} {bindings : List Binding} :
    resolved inventory c = .ok bindings ↔ resolveBindings inventory c = .ok bindings := by
  unfold resolved
  cases resolveBindings inventory c <;> simp [Except.mapError]

/-! ### Comparison -/

/-- Bindings have the same pools as others of their names. -/
def SamePools (existing desired : List Binding) : Prop :=
  ∀ b ∈ existing, ∀ d ∈ desired, b.name = d.name → b.thin = d.thin

namespace Materialization

/-- What the comparison looks at: the numbers of the bindings, and what is found under each name that should be there. -/
theorem bindingsDiffer_eq_false_iff_found {thin : Bool} {existing desired : List Binding} :
    bindingsDiffer thin existing desired = false ↔ existing.length = desired.length ∧
      ∀ d ∈ desired, ∃ e, (NameMap.ofList (existing.map (fun b => (b.name, b)))).get? d.name = some e ∧
        (thin = true → e.thin = d.thin) := by
  simp only [bindingsDiffer, Bool.or_eq_false_iff, bne_eq_false_iff_eq, List.any_eq_false, Bool.not_eq_true]
  refine and_congr_right fun _ => forall₂_congr fun d _ => ?_
  cases (NameMap.ofList (existing.map (fun b => (b.name, b)))).get? d.name <;> cases thin <;> simp

/-- Bindings differ from such with different names unless they have the same names, each once, and where it matters the
same pools. -/
theorem bindingsDiffer_eq_false_iff {thin : Bool} {existing desired : List Binding}
    (hdistinct : (desired.map (·.name)).Nodup) :
    bindingsDiffer thin existing desired = false ↔
      (existing.map (·.name)).Perm (desired.map (·.name)) ∧ (thin = true → SamePools existing desired) := by
  rw [bindingsDiffer_eq_false_iff_found]
  constructor
  · rintro ⟨hlen, hfound⟩
    have hsub : desired.map (·.name) ⊆ existing.map (·.name) := by
      intro n hn
      obtain ⟨d, hd, rfl⟩ := List.mem_map.1 hn
      obtain ⟨e, he, -⟩ := hfound d hd
      obtain ⟨b, hb, hkey⟩ := List.mem_map.1 (NameMap.mem_of_get?_ofList he)
      exact List.mem_map.2 ⟨b, hb, (Prod.mk.inj hkey).1⟩
    -- no name of the first list can be left over, as both lists are equally long
    have hperm : (desired.map (·.name)).Perm (existing.map (·.name)) :=
      (List.subperm_of_subset hdistinct hsub).perm_of_length_le (by simp [hlen])
    refine ⟨hperm.symm, fun hthin b hb d hd hn => ?_⟩
    obtain ⟨e, he, hpool⟩ := hfound d hd
    have hb' := (NameMap.get?_ofList_map_iff (hperm.nodup_iff.1 hdistinct)).2 ⟨hb, hn⟩
    obtain rfl := Option.some.inj (hb'.symm.trans he)
    exact hpool hthin
  · rintro ⟨hperm, hpools⟩
    refine ⟨by simpa using hperm.length_eq, fun d hd => ?_⟩
    obtain ⟨b, hb, hn⟩ := List.mem_map.1 (hperm.mem_iff.2 (List.mem_map_of_mem hd))
    exact ⟨b, (NameMap.get?_ofList_map_iff (hperm.nodup_iff.2 hdistinct)).2 ⟨hb, hn⟩, fun hthin =>
      hpools hthin b hb d hd hn⟩

end Materialization

open Materialization

section Compared

variable {current : StorageClass} {c : LocalClass} {lvm : LvmSpec} {existing desired : List Binding}

theorem drifted_eq_of_currentBindings? (hlvm : c.spec.lvm = some lvm)
    (hcurrent : currentBindings? current = some existing) :
    drifted current c desired = .ok (lvm.volumeCleanup.getD "" != current.parameter Marks.cleanupKey ||
      bindingsDiffer (lvm.lvmType == .thin) existing desired) := by
  simp only [drifted, hasDiff?, hcurrent, cleanup, hlvm, Option.map_some, Option.bind_some]
  rfl

/-- A storage class is as it should be just if the cleanup, the names of the bindings and their pools are. -/
theorem drifted_eq_ok_false_iff (hlvm : c.spec.lvm = some lvm) (hdistinct : (desired.map (·.name)).Nodup)
    (hcurrent : currentBindings? current = some existing) :
    drifted current c desired = .ok false ↔
      lvm.volumeCleanup.getD "" = current.parameter Marks.cleanupKey ∧
        (existing.map (·.name)).Perm (desired.map (·.name)) ∧ (lvm.lvmType = .thin → SamePools existing desired) := by
  rw [drifted_eq_of_currentBindings? hlvm hcurrent, Except.ok.injEq, Bool.or_eq_false_iff, bne_eq_false_iff_eq,
    bindingsDiffer_eq_false_iff hdistinct, beq_iff_eq]

end Compared

/-- A storage class with the parameters of a class does not differ from it. -/
theorem drifted_eq_false {c : LocalClass} {lvm : LvmSpec} {inventory : List VolumeGroup} {bindings : List Binding}
    {sc : StorageClass} (hlvm : c.spec.lvm = some lvm) (hb : resolved inventory c = .ok bindings)
    (hprint : ∀ b ∈ bindings, b.IsPrintable) (hsc : sc.parameters = some (parameters c.spec lvm bindings)) :
    drifted sc c bindings = .ok false := by
  have hdistinct := nodup_name_of_resolveBindings (resolved_eq_ok_iff.1 hb)
  have hcleanup : lvm.volumeCleanup.getD "" = sc.parameter Marks.cleanupKey := by
    simp only [StorageClass.parameter, hsc, Option.bind_some, get?_parameters_cleanup]
  have hpools : SamePools bindings bindings := fun b hb b' hb' hn =>
    congrArg _ (List.inj_on_of_nodup_map hdistinct hb hb' hn)
  exact (drifted_eq_ok_false_iff hlvm hdistinct (currentBindings?_eq hprint hsc)).2
    ⟨hcleanup, .refl _, fun _ => hpools⟩

/-- **A storage class differs from a local class in the cleanup of volumes, in the names of its bindings or, for thin
volumes, in their pools.**  It cannot be compared just if its own bindings cannot be read.  A name that it has twice is
a difference. -/
theorem drift_is_in_cleanup_or_bindings (current : StorageClass) {c : LocalClass} {lvm : LvmSpec}
    (hlvm : c.spec.lvm = some lvm) {desired : List Binding} (hdistinct : (desired.map (·.name)).Nodup) :
    ((∃ e, drifted current c desired = .error e) ↔ currentBindings? current = none) ∧
      ∀ existing, currentBindings? current = some existing →
        (drifted current c desired = .ok false ↔
          lvm.volumeCleanup.getD "" = current.parameter Marks.cleanupKey ∧
            (existing.map (·.name)).Perm (desired.map (·.name)) ∧
            (lvm.lvmType = .thin → SamePools existing desired)) ∧
          (¬ (existing.map (·.name)).Nodup → drifted current c desired = .ok true) := by
  constructor
  · cases hcurrent : currentBindings? current with
    | none => simp [drifted, hasDiff?, hcurrent]
    | some existing => simp [drifted_eq_of_currentBindings? hlvm hcurrent]
  · intro existing hcurrent
    have hiff := drifted_eq_ok_false_iff hlvm hdistinct hcurrent
    refine ⟨hiff, fun htwice => ?_⟩
    cases hd : drifted current c desired with
    | error e => cases (drifted_eq_of_currentBindings? hlvm hcurrent).symm.trans hd
    | ok b =>
      cases b with
      | true => rfl
      | false =>
        obtain ⟨-, hperm, -⟩ := hiff.1 hd
        exact absurd (hperm.nodup_iff.2 hdistinct) htwice

namespace Sample

/-- A storage class that carries a text in place of its bindings. -/
def carrying (text : String) : StorageClass :=
  { metadata := { name := some "mixed" }, provisioner := Marks.provisioner
    parameters := some (NameMap.ofList [(Marks.volumeGroupsKey, text)]) }

end Sample

/-- The same two pools in another order are no difference.  The first group twice is one, although the number of bindings
is right, and so is a pool that has changed.  A text that is no list cannot be compared. -/
theorem drift_is_in_cleanup_or_bindings_thin :
    let desired := [Binding.ofPool "vg-1" "a", .ofPool "vg-2" "b"]
    Sample.mixedClass.spec.lvm = some Sample.mixedLvm ∧ (desired.map (·.name)).Nodup ∧
      drifted (Sample.carrying "- name: vg-2\n  thin:\n    poolName: b\n- name: vg-1\n  thin:\n    poolName: a\n")
        Sample.mixedClass desired = .ok false ∧
      drifted (Sample.carrying "- name: vg-1\n  thin:\n    poolName: a\n- name: vg-1\n  thin:\n    poolName: a\n")
        Sample.mixedClass desired = .ok true ∧
      drifted (Sample.carrying "- name: vg-1\n  thin:\n    poolName: b\n- name: vg-2\n  thin:\n    poolName: b\n")
        Sample.mixedClass desired ≠ .ok false ∧
      ∃ e, drifted (Sample.carrying "[a list") Sample.mixedClass desired = .error e := by
  intro desired
  have hlvm : Sample.mixedClass.spec.lvm = some Sample.mixedLvm := rfl
  have hdistinct : (desired.map (·.name)).Nodup := by decide
  have hlaw (text : String) := drift_is_in_cleanup_or_bindings (Sample.carrying text) hlvm hdistinct
  refine ⟨hlvm, hdistinct, ?_, ?_, ?_, ?_⟩
  · refine ((hlaw _).2 [.ofPool "vg-2" "b", .ofPool "vg-1" "a"] (by decide +kernel)).1.2 ⟨by decide, ?_, fun _ => ?_⟩
    · exact List.Perm.swap ..
    · unfold SamePools
      decide
  · exact ((hlaw _).2 [.ofPool "vg-1" "a", .ofPool "vg-1" "a"] (by decide +kernel)).2 (by decide)
  · intro hsame
    have hpools := ((hlaw _).2 [.ofPool "vg-1" "b", .ofPool "vg-2" "b"] (by decide +kernel)).1.1 hsame
    have hpool := hpools.2.2 rfl (.ofPool "vg-1" "b") (by decide) (.ofPool "vg-1" "a") (by decide) rfl
    exact absurd hpool (by decide)
  · exact (hlaw _).1.2 (by decide +kernel)

end LocalVolumes
