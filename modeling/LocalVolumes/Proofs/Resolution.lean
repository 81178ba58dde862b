import LocalVolumes.Causes
import LocalVolumes.Proofs.NameMap
import Mathlib.Data.List.Nodup

/-!
# LocalVolumes.Proofs.Resolution — the bindings of a class

Bindings are gathered in a map, each under its name, so those of a class ascend strictly by their names.  One law of
look-ups says what the map holds: a group that the class lists has its last entry there, and a group that is only chosen
by its labels has the pool of the class.  So neither the order of the groups that there are matters nor how often one is
reported.  Without a selector the bindings are the groups that the class lists, whatever groups there are.
-/

namespace LocalVolumes

namespace Resolution

/-! ### The map of the bindings -/

/-- What is listed under a name is one of the references of the class. -/
theorem exists_ref_of_listed {lvm : LvmSpec} {k : String} {b : Binding} (h : (listed lvm).get? k = some b) :
    ∃ g ∈ lvm.groups, g.name = k ∧ Binding.ofRef g = b := by
  obtain ⟨g, hg, he⟩ := List.mem_map.1 (NameMap.mem_of_get?_ofList h)
  exact ⟨g, hg, Prod.mk.inj he⟩

/-- The names of the groups that a selector chooses; none without a selector. -/
def chosenNames (inventory : List VolumeGroup) : Option Selector → List String
  | none => []
  | some s => (inventory.filter (fun g => s.matchesLabels g.labels)).map (·.name)

/-- The bindings of a class by their names. -/
def bound (lvm : LvmSpec) (inventory : List VolumeGroup) : Option Selector → NameMap Binding
  | none => listed lvm
  | some s => select (defaultPool lvm) s inventory (listed lvm)

/-- A listed group keeps its entry; one that is only chosen has the pool of the class. -/
theorem get?_bound (lvm : LvmSpec) (inventory : List VolumeGroup) (selector : Option Selector) (n : String) :
    (bound lvm inventory selector).get? n =
      ((listed lvm).get? n).or (if n ∈ chosenNames inventory selector then some ⟨n, defaultPool lvm⟩ else none) := by
  cases selector with
  | none => simp [bound, chosenNames]
  | some s =>
    have hselect : bound lvm inventory (some s) = ((chosenNames inventory (some s)).map
        (fun n => (n, (⟨n, defaultPool lvm⟩ : Binding)))).foldl (fun m e => m.insertIfNew e.1 e.2) (listed lvm) := by
      rw [chosenNames, List.map_map, List.foldl_map]
      rfl
    rw [hselect, NameMap.get?_foldl_insertIfNew, NameMap.lookup_map_names]

theorem resolveBindings_eq {c : LocalClass} {lvm : LvmSpec} (h : c.spec.lvm = some lvm) (inventory : List VolumeGroup) :
    resolveBindings inventory c = (compile lvm).map (fun selector => (bound lvm inventory selector).values) := by
  simp only [resolveBindings, h]
  cases compile lvm with
  | error cause => rfl
  | ok selector => cases selector <;> rfl

/-- Each binding is stored under its name. -/
def Named (m : NameMap Binding) : Prop := ∀ k b, m.get? k = some b → b.name = k

theorem named_bound (lvm : LvmSpec) (inventory : List VolumeGroup) (selector : Option Selector) :
    Named (bound lvm inventory selector) := by
  intro k b hb
  rw [get?_bound, Option.or_eq_some_iff] at hb
  rcases hb with hb | ⟨-, hb⟩
  · obtain ⟨g, -, hk, rfl⟩ := exists_ref_of_listed hb
    exact hk
  · obtain ⟨-, hb⟩ := Option.ite_none_right_eq_some.1 hb
    rw [← Option.some.inj hb]

/-- The values of the map ascend by their names. -/
theorem Named.pairwise_values {m : NameMap Binding} (h : Named m) :
    m.values.Pairwise (fun b b' => b.name < b'.name) := by
  rw [NameMap.values, List.pairwise_map]
  refine m.ascending.imp_of_mem fun {e e'} he he' hlt => ?_
  rw [h _ _ (NameMap.mem_entries_iff.1 he), h _ _ (NameMap.mem_entries_iff.1 he')]
  exact hlt

/-- The values of the map are what their names have. -/
theorem Named.mem_values_iff {m : NameMap Binding} (h : Named m) {b : Binding} :
    b ∈ m.values ↔ m.get? b.name = some b := by
  rw [NameMap.mem_values_iff]
  refine ⟨fun ⟨k, hk⟩ => ?_, fun hb => ⟨b.name, hb⟩⟩
  rw [h k b hk]
  exact hk

/-- The bindings of a class are the values of a map that has each under its name. -/
theorem exists_named {inventory : List VolumeGroup} {c : LocalClass} {bindings : List Binding}
    (h : resolveBindings inventory c = .ok bindings) : ∃ m, Named m ∧ m.values = bindings := by
  cases hlvm : c.spec.lvm with
  | none => simp [resolveBindings, hlvm] at h
  | some lvm =>
    rw [resolveBindings_eq hlvm] at h
    cases hc : compile lvm with
    | error cause => simp [hc, Except.map] at h
    | ok selector =>
      rw [hc] at h
      exact ⟨_, named_bound lvm inventory selector, Except.ok.inj h⟩

end Resolution

open Resolution

section Resolved

variable {inventory : List VolumeGroup} {c : LocalClass} {bindings : List Binding}

/-- The bindings of a class ascend strictly by their names. -/
theorem pairwise_of_resolveBindings (h : resolveBindings inventory c = .ok bindings) :
    bindings.Pairwise (fun b b' => b.name < b'.name) := by
  obtain ⟨m, hm, rfl⟩ := exists_named h
  exact hm.pairwise_values

/-- The bindings of a class have different names. -/
theorem nodup_name_of_resolveBindings (h : resolveBindings inventory c = .ok bindings) :
    (bindings.map (·.name)).Nodup := by
  refine (List.pairwise_map.2 (pairwise_of_resolveBindings h)).imp fun {n n'} hlt heq => ?_
  rw [heq] at hlt
  exact String.lt_irrefl _ hlt

/-- The groups that there are do not matter without a selector. -/
theorem resolveBindings_eq_of_not_usesSelector (hs : c.usesSelector = false) (inventory inventory' : List VolumeGroup) :
    resolveBindings inventory c = resolveBindings inventory' c := by
  cases hlvm : c.spec.lvm with
  | none => simp only [resolveBindings, hlvm]
  | some lvm =>
    have hnone : lvm.selector = none := by simpa [LocalClass.usesSelector, hlvm] using hs
    simp only [resolveBindings, hlvm, compile, hnone]

/-- Without a selector only groups that the class lists are bound. -/
theorem referencesGroup_of_resolveBindings (hs : c.usesSelector = false)
    (h : resolveBindings inventory c = .ok bindings) {b : Binding} (hb : b ∈ bindings) :
    c.referencesGroup b.name = true := by
  cases hlvm : c.spec.lvm with
  | none => simp [resolveBindings, hlvm] at h
  | some lvm =>
    have hnone : lvm.selector = none := by simpa [LocalClass.usesSelector, hlvm] using hs
    simp only [resolveBindings, hlvm, compile, hnone, Except.ok.injEq] at h
    subst h
    obtain ⟨k, hk⟩ := NameMap.mem_values_iff.1 hb
    obtain ⟨g, hg, -, rfl⟩ := exists_ref_of_listed hk
    simp only [LocalClass.referencesGroup, hlvm, Option.map_some, Option.getD_some, List.any_eq_true]
    exact ⟨g, hg, beq_self_eq_true _⟩

end Resolved

/-! ### Classes whose groups can be told -/

/-- The selector of a class chooses a group. -/
def LvmSpec.Chooses (lvm : LvmSpec) (g : VolumeGroup) : Prop :=
  ∃ s compiled, lvm.selector = some s ∧ Selector.compile s = .ok compiled ∧ compiled.matchesLabels g.labels = true

namespace Resolution

/-- The bindings of a class as the text that its storage class carries. -/
def encoded (inventory : List VolumeGroup) (c : LocalClass) : Except LocalVolumes.Fault String :=
  (resolved inventory c).map Binding.encode

end Resolution

namespace Sample

/-- Thin volumes in two listed groups and in all fast ones. -/
def mixedLvm : LvmSpec :=
  { lvmType := .thin, groups := [⟨"vg-9", none⟩, ⟨"vg-2", some ⟨"custom"⟩⟩]
    selector := some ⟨some (NameMap.ofList [("tier", "fast")]), none⟩
    thinPoolName := some "pool", volumeCleanup := none, thick := none }

/-- The class of these volumes. -/
def mixedClass : LocalClass :=
  { metadata := { name := some "mixed" }, spec := ⟨.delete, .immediate, some mixedLvm, none⟩, status := none }

end Sample

end LocalVolumes
