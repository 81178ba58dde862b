import LocalVolumes.Proofs.Admission
import LocalVolumes.Proofs.Materialization
import LocalVolumes.Proofs.Resolution
import LocalVolumes.Reconciliation

/-!
# LocalVolumes.Proofs.Relevance — a change of a group and the classes that it does not concern

When a group changes, passes run over the classes that it may concern, and over no others.  For the others it must not
matter: their groups and what is wrong with them are the same before and after.  Two inventories that differ in one
group only are compared by what the checks see of them.
-/

namespace LocalVolumes

open Admission

/-! ### Inventories that differ under one name -/

/-- Under every name but one two inventories have the same entries, in the same order. -/
def AgreeBeside (name : String) (inventory inventory' : List VolumeGroup) : Prop :=
  ∀ n, n ≠ name → inventory.filter (fun g => g.name == n) = inventory'.filter (fun g => g.name == n)

namespace AgreeBeside

variable {name : String} {inventory inventory' : List VolumeGroup}

/-- Inventories that are the same without the entries of a name. -/
theorem of_filter (h : inventory.filter (fun g => g.name != name) = inventory'.filter (fun g => g.name != name)) :
    AgreeBeside name inventory inventory' := by
  intro n hn
  have hnarrow (l : List VolumeGroup) :
      l.filter (fun g => g.name == n) = (l.filter (fun g => g.name != name)).filter (fun g => g.name == n) := by
    rw [List.filter_filter]
    refine List.filter_congr fun g _ => ?_
    by_cases hg : g.name = n
    · simp [hg, hn]
    · simp [hg]
  rw [hnarrow inventory, hnarrow inventory', h]

theorem mem_iff (h : AgreeBeside name inventory inventory') {g : VolumeGroup} (hg : g.name ≠ name) :
    g ∈ inventory ↔ g ∈ inventory' := by
  have hmem (l : List VolumeGroup) : g ∈ l ↔ g ∈ l.filter (fun g' => g'.name == g.name) := by
    simp [List.mem_filter]
  rw [hmem inventory, hmem inventory', h g.name hg]

theorem get?_byName (h : AgreeBeside name inventory inventory') {n : String} (hn : n ≠ name) :
    (byName inventory).get? n = (byName inventory').get? n := by
  rw [Admission.get?_byName, Admission.get?_byName, h n hn]

/-- Bound groups are the same on every node if the name is not bound. -/
theorem mem_boundOn_iff (h : AgreeBeside name inventory inventory') {bindings : List Binding}
    (hb : ∀ b ∈ bindings, b.name ≠ name) {node : String} {g : VolumeGroup} :
    g ∈ boundOn inventory bindings node ↔ g ∈ boundOn inventory' bindings node := by
  rw [Admission.mem_boundOn_iff, Admission.mem_boundOn_iff]
  refine and_congr_left fun ⟨⟨b, hmem, hname⟩, _⟩ => ?_
  exact h.mem_iff (hname ▸ hb b hmem)

theorem groupsByNode_eq (h : AgreeBeside name inventory inventory') {bindings : List Binding}
    (hb : ∀ b ∈ bindings, b.name ≠ name) : groupsByNode inventory bindings = groupsByNode inventory' bindings := by
  refine NameMap.ext_get? fun node => ?_
  have hmem (g : VolumeGroup) : g ∈ boundOn inventory bindings node ↔ g ∈ boundOn inventory' bindings node :=
    h.mem_boundOn_iff hb
  have hnil : boundOn inventory bindings node = [] ↔ boundOn inventory' bindings node = [] := by
    simp only [List.eq_nil_iff_forall_not_mem, hmem]
  have hnames : NameMap.ofList (((boundOn inventory bindings node).map (·.name)).map (fun n => (n, ()))) =
      NameMap.ofList (((boundOn inventory' bindings node).map (·.name)).map (fun n => (n, ()))) := by
    refine NameMap.ofNames_congr fun n => ?_
    simp only [List.mem_map, hmem]
  rw [get?_groupsByNode, get?_groupsByNode, hnames]
  simp only [hnil]

/-- What is wrong with a class is the same if the name is not bound. -/
theorem violations_eq (h : AgreeBeside name inventory inventory') {c : LocalClass} {bindings : List Binding}
    (hb : ∀ b ∈ bindings, b.name ≠ name) (classes : List StorageClass) :
    violations c bindings inventory classes = violations c bindings inventory' classes :=
  violations_congr (h.groupsByNode_eq hb) (fun b hmem => h.get?_byName (hb b hmem)) classes

end AgreeBeside

/-! ### The classes that a change may concern -/

/-- A change of a group may concern the classes that choose groups by label, those that list it, and those whose last
pass failed. -/
theorem mem_classesAffectedBy_iff {classes : List LocalClass} {group n : String} :
    n ∈ classesAffectedBy classes group ↔
      ∃ c ∈ classes, (c.usesSelector = true ∨ c.referencesGroup group = true ∨ c.isFailed = true) ∧ c.name = n := by
  simp only [classesAffectedBy, mem_sortedNames_iff, List.mem_map, List.mem_filter, Bool.or_eq_true, or_assoc, and_assoc]

/-- **A change of a group concerns no other classes.**  Their bindings are the same whatever the entries of its name
in the inventory are, or are missing for the same reason, and so is all that is wrong with them.  The names of the
classes that it may concern come in ascending order, each once. -/
theorem classesAffectedBy_misses_none (classes : List LocalClass) (group : String) :
    (classesAffectedBy classes group).Pairwise (· < ·) ∧
      ∀ inventory inventory', AgreeBeside group inventory inventory' →
        ∀ c ∈ classes, c.name ∉ classesAffectedBy classes group →
          resolveBindings inventory c = resolveBindings inventory' c ∧
            ∀ bindings, resolveBindings inventory c = .ok bindings → ∀ storageClasses,
              violations c bindings inventory storageClasses = violations c bindings inventory' storageClasses := by
  refine ⟨pairwise_sortedNames _, fun inventory inventory' hagree c hc hn => ?_⟩
  have hselector : c.usesSelector = false := by
    refine Bool.eq_false_iff.2 fun hs => hn ?_
    exact mem_classesAffectedBy_iff.2 ⟨c, hc, .inl hs, rfl⟩
  refine ⟨resolveBindings_eq_of_not_usesSelector hselector inventory inventory', fun bindings hb classes' => ?_⟩
  -- a bound group is listed, so it is another one
  refine hagree.violations_eq (fun b hmem hname => hn ?_) classes'
  have href := referencesGroup_of_resolveBindings hselector hb hmem
  rw [hname] at href
  exact mem_classesAffectedBy_iff.2 ⟨c, hc, .inr (.inl href), rfl⟩

/-- A group that is not listed comes, with labels, a node and a pool, before the group that is listed and on the same
node: the class is as good as before. -/
theorem classesAffectedBy_misses_none_newcomer :
    let newcomer : VolumeGroup :=
      { metadata := { name := some "vg-2", labels := some (NameMap.ofList [("tier", "fast")]) }, spec := ⟨"other"⟩
        status := some ⟨[⟨"node-1"⟩], none, none, [⟨"pool", none, none⟩]⟩ }
    AgreeBeside "vg-2" [Sample.group] [newcomer, Sample.group] ∧ Sample.localClass ∈ [Sample.localClass] ∧
      Sample.localClass.name ∉ classesAffectedBy [Sample.localClass] "vg-2" ∧
      resolveBindings [newcomer, Sample.group] Sample.localClass = .ok [.ofGroup "vg-1"] ∧
      violations Sample.localClass [.ofGroup "vg-1"] [newcomer, Sample.group] [] = [] := by
  intro newcomer
  have hagree : AgreeBeside "vg-2" [Sample.group] [newcomer, Sample.group] := .of_filter (by decide)
  have hmem : Sample.localClass ∈ [Sample.localClass] := List.mem_singleton_self _
  have hn : Sample.localClass.name ∉ classesAffectedBy [Sample.localClass] "vg-2" := by decide
  obtain ⟨hresolve, hviolations⟩ := (classesAffectedBy_misses_none _ _).2 _ _ hagree _ hmem hn
  have hbefore : resolveBindings [Sample.group] Sample.localClass = .ok [.ofGroup "vg-1"] := rfl
  refine ⟨hagree, hmem, hn, hresolve ▸ hbefore, ?_⟩
  rw [← hviolations _ hbefore]
  decide

end LocalVolumes
