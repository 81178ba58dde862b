import LocalVolumes.Materialization
import LocalVolumes.Proofs.Binding
import LocalVolumes.Proofs.NameMap
import LocalVolumes.VolumeParameters

/-!
# LocalVolumes.Proofs.Parameters — the provisioner reads what the controller has written

The parameters of a storage class are written by the controller and read by the provisioner, which shares nothing with
it but the keys.  What each key has is told by one lemma.  From these follows that the provisioner learns the type, the
mode and the bindings of the class, and of contiguity what matters for the type.
-/

namespace LocalVolumes

/-! ### Words -/

theorem LvmType.ofWord?_word (t : LvmType) : LvmType.ofWord? t.word = some t := by
  cases t <;> rfl

theorem BindingMode.ofWord?_word (m : BindingMode) : BindingMode.ofWord? m.word = some m := by
  cases m <;> rfl

/-! ### What the keys have -/

namespace Materialization

section Keys

variable (spec : LocalClassSpec) (lvm : LvmSpec) (bindings : List Binding)

/-- What a key other than that of contiguity has among the parameters. -/
theorem get?_parameters {k : String} (hk : k ≠ Marks.contiguousKey) :
    (parameters spec lvm bindings).get? k =
      if k = Marks.cleanupKey ∧ lvm.volumeCleanup.getD "" ≠ "" then lvm.volumeCleanup
      else (NameMap.ofList [(Marks.kindKey, Marks.kindValue), (Marks.lvmTypeKey, lvm.lvmType.word),
        (Marks.bindingModeKey, spec.bindingMode.word), (Marks.volumeGroupsKey, Binding.encode bindings),
        (Marks.fsTypeKey, fsType spec)]).get? k := by
  unfold parameters
  grind

theorem get?_parameters_kind :
    (parameters spec lvm bindings).get? Marks.kindKey = some Marks.kindValue := by
  have hcleanup : Marks.kindKey ≠ Marks.cleanupKey := by decide
  have htype : Marks.kindKey ≠ Marks.lvmTypeKey := by decide
  have hmode : Marks.kindKey ≠ Marks.bindingModeKey := by decide
  have hgroups : Marks.kindKey ≠ Marks.volumeGroupsKey := by decide
  have hfs : Marks.kindKey ≠ Marks.fsTypeKey := by decide
  rw [get?_parameters spec lvm bindings (by decide), if_neg fun h => hcleanup h.1]
  simp [NameMap.ofList, NameMap.get?_insert, htype, hmode, hgroups, hfs]

theorem get?_parameters_lvmType :
    (parameters spec lvm bindings).get? Marks.lvmTypeKey = some lvm.lvmType.word := by
  have hcleanup : Marks.lvmTypeKey ≠ Marks.cleanupKey := by decide
  have hmode : Marks.lvmTypeKey ≠ Marks.bindingModeKey := by decide
  have hgroups : Marks.lvmTypeKey ≠ Marks.volumeGroupsKey := by decide
  have hfs : Marks.lvmTypeKey ≠ Marks.fsTypeKey := by decide
  rw [get?_parameters spec lvm bindings (by decide), if_neg fun h => hcleanup h.1]
  simp [NameMap.ofList, NameMap.get?_insert, hmode, hgroups, hfs]

theorem get?_parameters_bindingMode :
    (parameters spec lvm bindings).get? Marks.bindingModeKey = some spec.bindingMode.word := by
  have hcleanup : Marks.bindingModeKey ≠ Marks.cleanupKey := by decide
  have hgroups : Marks.bindingModeKey ≠ Marks.volumeGroupsKey := by decide
  have hfs : Marks.bindingModeKey ≠ Marks.fsTypeKey := by decide
  rw [get?_parameters spec lvm bindings (by decide), if_neg fun h => hcleanup h.1]
  simp [NameMap.ofList, NameMap.get?_insert, hgroups, hfs]

theorem get?_parameters_volumeGroups :
    (parameters spec lvm bindings).get? Marks.volumeGroupsKey = some (Binding.encode bindings) := by
  have hcleanup : Marks.volumeGroupsKey ≠ Marks.cleanupKey := by decide
  have hfs : Marks.volumeGroupsKey ≠ Marks.fsTypeKey := by decide
  rw [get?_parameters spec lvm bindings (by decide), if_neg fun h => hcleanup h.1]
  simp [NameMap.ofList, NameMap.get?_insert, hfs]

theorem get?_parameters_cleanup :
    ((parameters spec lvm bindings).get? Marks.cleanupKey).getD "" = lvm.volumeCleanup.getD "" := by
  have hkind : Marks.cleanupKey ≠ Marks.kindKey := by decide
  have htype : Marks.cleanupKey ≠ Marks.lvmTypeKey := by decide
  have hmode : Marks.cleanupKey ≠ Marks.bindingModeKey := by decide
  have hgroups : Marks.cleanupKey ≠ Marks.volumeGroupsKey := by decide
  have hfs : Marks.cleanupKey ≠ Marks.fsTypeKey := by decide
  rw [get?_parameters spec lvm bindings (by decide)]
  split
  · rfl
  · next h =>
    have hempty : lvm.volumeCleanup.getD "" = "" := by simpa using h
    simp [NameMap.ofList, NameMap.get?_insert, hkind, htype, hmode, hgroups, hfs, hempty]

/-- Contiguity stands there for thin volumes too, if it is asked for. -/
theorem get?_parameters_contiguous :
    (parameters spec lvm bindings).get? Marks.contiguousKey = if wantsContiguous lvm then some "true" else none := by
  have hcleanup : Marks.contiguousKey ≠ Marks.cleanupKey := by decide
  have hkind : Marks.contiguousKey ≠ Marks.kindKey := by decide
  have htype : Marks.contiguousKey ≠ Marks.lvmTypeKey := by decide
  have hmode : Marks.contiguousKey ≠ Marks.bindingModeKey := by decide
  have hgroups : Marks.contiguousKey ≠ Marks.volumeGroupsKey := by decide
  have hfs : Marks.contiguousKey ≠ Marks.fsTypeKey := by decide
  have hbase : (NameMap.ofList [(Marks.kindKey, Marks.kindValue), (Marks.lvmTypeKey, lvm.lvmType.word),
      (Marks.bindingModeKey, spec.bindingMode.word), (Marks.volumeGroupsKey, Binding.encode bindings),
      (Marks.fsTypeKey, fsType spec)]).get? Marks.contiguousKey = none := by
    simp [NameMap.ofList, NameMap.get?_insert, hkind, htype, hmode, hgroups, hfs]
  unfold parameters
  grind

end Keys

theorem wantsContiguous_iff {lvm : LvmSpec} :
    wantsContiguous lvm = true ↔ ∃ t, lvm.thick = some t ∧ t.contiguous = true := by
  cases h : lvm.thick <;> simp [wantsContiguous, h]

end Materialization

/-! ### Reading -/

open Materialization

/-- The bindings can be read off the storage class again. -/
theorem currentBindings?_eq {sc : StorageClass} {spec : LocalClassSpec} {lvm : LvmSpec} {bindings : List Binding}
    (hprint : ∀ b ∈ bindings, b.IsPrintable) (hsc : sc.parameters = some (parameters spec lvm bindings)) :
    currentBindings? sc = some bindings := by
  simp only [currentBindings?, StorageClass.parameter, hsc, Option.bind_some, get?_parameters_volumeGroups,
    Option.getD_some, Binding.decode?_encode hprint]

theorem buildStorageClass?_eq {c : LocalClass} {lvm : LvmSpec} (hlvm : c.spec.lvm = some lvm)
    (bindings : List Binding) : buildStorageClass? c bindings = some (storageClass c lvm bindings) := by
  rw [buildStorageClass?, hlvm, Option.map_some]

/-- What the provisioner is told of a class with groups. -/
def VolumeParameters.ofClass (spec : LocalClassSpec) (lvm : LvmSpec) (bindings : List Binding) : VolumeParameters :=
  { lvmType := lvm.lvmType, bindingMode := spec.bindingMode, bindings
    contiguous := lvm.lvmType == .thick && wantsContiguous lvm }

theorem VolumeParameters.ofMap_parameters (spec : LocalClassSpec) (lvm : LvmSpec) {bindings : List Binding}
    (hne : bindings ≠ []) (hprint : ∀ b ∈ bindings, b.IsPrintable) :
    ofMap (parameters spec lvm bindings) = .ok (ofClass spec lvm bindings) := by
  obtain ⟨b, bs, rfl⟩ := List.exists_cons_of_ne_nil hne
  have hcontiguous : ((if wantsContiguous lvm then some "true" else none).getD "" == "true") = wantsContiguous lvm := by
    cases wantsContiguous lvm <;> rfl
  simp only [ofMap, get?_parameters_kind, get?_parameters_lvmType, get?_parameters_bindingMode,
    get?_parameters_volumeGroups, get?_parameters_contiguous, Option.getD_some, ne_eq, not_true_eq_false, if_false,
    LvmType.ofWord?_word, BindingMode.ofWord?_word, Binding.decode?_encode hprint, hcontiguous, ofClass]

/-- **The provisioner reads what the controller has written.**  The storage class of a class with groups tells how to
make volumes just as the class does: of the same type, bound at the same time, in the same groups in the same order, and
contiguous only if they are thick and the class asks for it.  The controller itself reads the same groups. -/
theorem volumeParameters_of_storageClass {c : LocalClass} {lvm : LvmSpec} {bindings : List Binding}
    (hlvm : c.spec.lvm = some lvm) (hne : bindings ≠ []) (hprint : ∀ b ∈ bindings, b.IsPrintable) :
    ∃ sc ps p, buildStorageClass? c bindings = some sc ∧ sc.parameters = some ps ∧
      VolumeParameters.ofMap ps = .ok p ∧ p.lvmType = lvm.lvmType ∧ p.bindingMode = c.spec.bindingMode ∧
      p.bindings = bindings ∧
      (p.contiguous = true ↔ lvm.lvmType = .thick ∧ ∃ t, lvm.thick = some t ∧ t.contiguous = true) ∧
      currentBindings? sc = some bindings := by
  have hread := VolumeParameters.ofMap_parameters c.spec lvm hne hprint
  refine ⟨_, _, _, buildStorageClass?_eq hlvm bindings, rfl, hread, rfl, rfl, rfl, ?_, currentBindings?_eq hprint rfl⟩
  simp only [VolumeParameters.ofClass, Bool.and_eq_true, beq_iff_eq, wantsContiguous_iff]

/-- A thin class with two groups that asks for contiguity: its volumes are not contiguous. -/
theorem volumeParameters_of_storageClass_thin :
    let lvm : LvmSpec := ⟨.thin, [], none, none, some "RandomFillSinglePass", some ⟨true⟩⟩
    let c : LocalClass := ⟨{ name := some "local" }, ⟨.delete, .immediate, some lvm, none⟩, none⟩
    let bindings : List Binding := [.ofPool "- vg: 1" "null", .ofPool "" " pool'"]
    c.spec.lvm = some lvm ∧ bindings ≠ [] ∧ (∀ b ∈ bindings, b.IsPrintable) ∧
      ∃ sc ps p, buildStorageClass? c bindings = some sc ∧ sc.parameters = some ps ∧
        VolumeParameters.ofMap ps = .ok p ∧ p.bindings = bindings ∧ p.contiguous = false := by
  intro lvm c bindings
  have hprint : ∀ b ∈ bindings, b.IsPrintable := by
    intro b hb
    rcases List.mem_cons.1 hb with rfl | hb
    · exact ⟨by decide, fun p hp => Option.some.inj hp ▸ by decide⟩
    · rw [List.mem_singleton.1 hb]
      exact ⟨by decide, fun p hp => Option.some.inj hp ▸ by decide⟩
  have hlvm : c.spec.lvm = some lvm := rfl
  have hne : bindings ≠ [] := List.cons_ne_nil _ _
  obtain ⟨sc, ps, p, hbuilt, hps, hread, -, -, hbs, hcontiguous, -⟩ :=
    volumeParameters_of_storageClass hlvm hne hprint
  refine ⟨hlvm, hne, hprint, sc, ps, p, hbuilt, hps, hread, hbs, ?_⟩
  exact Bool.eq_false_iff.2 fun h => LvmType.noConfusion (hcontiguous.1 h).1

end LocalVolumes
