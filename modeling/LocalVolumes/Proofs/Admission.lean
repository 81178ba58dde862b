import LocalVolumes.Admission
import LocalVolumes.Proofs.NameMap

/-!
# LocalVolumes.Proofs.Admission — what the checks of a class come to

Of the groups that there are the checks see two things only: the bound groups that report a node, and the group that
there is under the name of a binding.  A class without a violation is one that meets all the conditions.
-/

namespace LocalVolumes

namespace Admission

/-! ### The groups of a node -/

/-- The bound groups that report a node. -/
def boundOn (inventory : List VolumeGroup) (bindings : List Binding) (node : String) : List VolumeGroup :=
  (inventory.filter (fun g => (bindings.map (·.name)).contains g.name)).filter (fun g => g.nodeNames.contains node)

theorem mem_boundOn_iff {inventory : List VolumeGroup} {bindings : List Binding} {node : String} {g : VolumeGroup} :
    g ∈ boundOn inventory bindings node ↔ g ∈ inventory ∧ (∃ b ∈ bindings, b.name = g.name) ∧ node ∈ g.nodeNames := by
  simp only [boundOn, List.mem_filter, List.contains_iff_mem, List.mem_map, and_assoc]

/-- A group comes to those that its nodes have. -/
theorem get?_foldl_nodes (nodes : List String) (name : String) (m : NameMap (NameMap Unit)) (k : String) :
    (nodes.foldl (fun m node => m.insert node (((m.get? node).getD ∅).insert name ())) m).get? k =
      if k ∈ nodes then some (((m.get? k).getD ∅).insert name ()) else m.get? k := by
  induction nodes generalizing m with
  | nil => simp
  | cons node nodes ih =>
    rw [List.foldl_cons, ih, NameMap.get?_insert]
    by_cases hk : k = node
    · subst hk
      by_cases hmem : k ∈ nodes
      · simp [hmem, NameMap.insert_insert]
      · simp [hmem]
    · simp [hk]

theorem get?_foldl_groups (gs : List VolumeGroup) (m : NameMap (NameMap Unit)) (k : String) :
    (gs.foldl (fun m g =>
      g.nodeNames.foldl (fun m node => m.insert node (((m.get? node).getD ∅).insert g.name ())) m) m).get? k =
      if gs.filter (fun g => g.nodeNames.contains k) = [] then m.get? k
      else some ((gs.filter (fun g => g.nodeNames.contains k)).foldl (fun names g => names.insert g.name ())
        ((m.get? k).getD ∅)) := by
  induction gs generalizing m with
  | nil => simp
  | cons g gs ih =>
    rw [List.foldl_cons, ih, get?_foldl_nodes]
    by_cases hk : k ∈ g.nodeNames
    · rw [List.filter_cons_of_pos (by simpa using hk), if_pos hk, if_neg (List.cons_ne_nil _ _), List.foldl_cons]
      by_cases hnil : gs.filter (fun g => g.nodeNames.contains k) = []
      · rw [if_pos hnil, hnil, List.foldl_nil]
      · rw [if_neg hnil, Option.getD_some]
    · rw [List.filter_cons_of_neg (by simpa using hk), if_neg hk]

/-- A node has the names of the bound groups that report it. -/
theorem get?_groupsByNode (inventory : List VolumeGroup) (bindings : List Binding) (node : String) :
    (groupsByNode inventory bindings).get? node =
      if boundOn inventory bindings node = [] then none
      else some (NameMap.ofList (((boundOn inventory bindings node).map (·.name)).map (fun n => (n, ())))) := by
  rw [groupsByNode, get?_foldl_groups, NameMap.get?_empty, NameMap.ofList, List.foldl_map, List.foldl_map]
  rfl

/-- The shared nodes are those with several bound groups; they come with the names of these. -/
theorem mem_sharedNodes_iff {inventory : List VolumeGroup} {bindings : List Binding} {node : String}
    {names : List String} :
    (node, names) ∈ sharedNodes inventory bindings ↔
      sortedNames ((boundOn inventory bindings node).map (·.name)) = names ∧ 1 < names.length := by
  simp only [sharedNodes, NameMap.toList, List.mem_filter, List.mem_map, Prod.exists, Prod.mk.injEq,
    NameMap.mem_entries_iff, get?_groupsByNode, decide_eq_true_eq, Option.ite_none_left_eq_some, Option.some.injEq]
  constructor
  · rintro ⟨⟨node', set, ⟨-, rfl⟩, rfl, hkeys⟩, hlen⟩
    exact ⟨hkeys, hlen⟩
  · rintro ⟨hkeys, hlen⟩
    refine ⟨⟨node, _, ⟨fun hnil => ?_, rfl⟩, rfl, hkeys⟩, hlen⟩
    have hempty : names = [] := by
      rw [← hkeys, hnil]
      rfl
    simp [hempty] at hlen

/-- The shared nodes ascend. -/
theorem pairwise_sharedNodes (inventory : List VolumeGroup) (bindings : List Binding) :
    (sharedNodes inventory bindings).Pairwise (fun a b => a.1 < b.1) := by
  refine List.Pairwise.filter _ (List.pairwise_map.2 ?_)
  exact (groupsByNode inventory bindings).ascending

/-- No node is shared if the bound groups that report a node are the same by name. -/
theorem sharedNodes_eq_nil_iff {inventory : List VolumeGroup} {bindings : List Binding} :
    sharedNodes inventory bindings = [] ↔
      ∀ node, ∀ g ∈ boundOn inventory bindings node, ∀ g' ∈ boundOn inventory bindings node, g.name = g'.name := by
  have hone (node : String) : (sortedNames ((boundOn inventory bindings node).map (·.name))).length ≤ 1 ↔
      ∀ g ∈ boundOn inventory bindings node, ∀ g' ∈ boundOn inventory bindings node, g.name = g'.name := by
    rw [length_sortedNames_le_one_iff]
    simp only [List.forall_mem_map]
  constructor
  · intro hnil node
    rw [← hone, ← Nat.not_lt]
    intro hlt
    have hmem := mem_sharedNodes_iff.2 ⟨rfl, hlt⟩
    rw [hnil] at hmem
    simp at hmem
  · intro hall
    refine List.eq_nil_iff_forall_not_mem.2 fun ⟨node, names⟩ hmem => ?_
    obtain ⟨rfl, hlt⟩ := mem_sharedNodes_iff.1 hmem
    exact Nat.not_lt.2 ((hone node).2 (hall node)) hlt

/-! ### The groups of the names -/

/-- Of two groups with one name the later counts. -/
theorem get?_byName (inventory : List VolumeGroup) (name : String) :
    (byName inventory).get? name = (inventory.filter (fun g => g.name == name)).getLast? := by
  rw [byName, NameMap.get?_ofList, List.filter_map, List.getLast?_map, Option.map_map]
  exact Option.map_id'

theorem mem_of_get?_byName {inventory : List VolumeGroup} {name : String} {g : VolumeGroup}
    (h : (byName inventory).get? name = some g) : g ∈ inventory ∧ g.name = name := by
  rw [get?_byName] at h
  simpa using List.mem_filter.1 (List.mem_of_getLast? h)

/-- Where names differ, the only group of a name is under it. -/
theorem get?_byName_iff {inventory : List VolumeGroup} (hdistinct : (inventory.map (·.name)).Nodup) {n : String}
    {g : VolumeGroup} : (byName inventory).get? n = some g ↔ g ∈ inventory ∧ g.name = n :=
  NameMap.get?_ofList_map_iff hdistinct

/-! ### Violations -/

theorem violationIf_eq_nil_iff {b : Bool} {v : Violation} : violationIf b v = [] ↔ b = false := by
  cases b <;> simp [violationIf]

theorem violationOf_eq_nil_iff {α : Type} {v : List α → Violation} {items : List α} :
    violationOf v items = [] ↔ items = [] := by
  cases items <;> simp [violationOf]

theorem foreignClass?_eq_none_iff {c : LocalClass} {classes : List StorageClass} :
    foreignClass? c classes = none ↔
      ∀ sc ∈ classes, sc.metadata.name = some c.name → sc.provisioner = Marks.provisioner := by
  simp [foreignClass?, StorageClass.isManaged]

theorem lacksSource_eq_false_iff {lvm : LvmSpec} :
    (lvm.groups.isEmpty && lvm.selector.isNone) = false ↔ lvm.groups ≠ [] ∨ lvm.selector.isSome := by
  cases lvm.groups <;> cases lvm.selector <;> simp

theorem lacksPoolName_eq_false_iff {lvm : LvmSpec} :
    (lvm.lvmType == .thin && lvm.selector.isSome && (lvm.thinPoolName.getD "").isEmpty) = false ↔
      (lvm.lvmType = .thin → lvm.selector.isSome → lvm.thinPoolName.getD "" ≠ "") := by
  cases lvm.lvmType <;> cases lvm.selector <;> simp

end Admission

open Admission

/-- The conditions under which a class with groups can be put into effect. -/
structure Admissible (c : LocalClass) (lvm : LvmSpec) (bindings : List Binding) (inventory : List VolumeGroup)
    (classes : List StorageClass) : Prop where
  /-- No storage class of the name belongs to someone else. -/
  unclaimed : foreignClass? c classes = none
  source : lvm.groups ≠ [] ∨ lvm.selector.isSome
  bound : bindings ≠ []
  poolName : lvm.lvmType = .thin → lvm.selector.isSome → lvm.thinPoolName.getD "" ≠ ""
  /-- No node is reported by two bound groups. -/
  exclusive : ∀ node, ∀ g ∈ boundOn inventory bindings node, ∀ g' ∈ boundOn inventory bindings node, g.name = g'.name
  present : ∀ b ∈ bindings, ∃ g, (byName inventory).get? b.name = some g
  /-- Thin volumes have a pool in every bound group. -/
  thinPool : lvm.lvmType = .thin → ∀ b ∈ bindings, hostsPool (byName inventory) b = true
  /-- Thick volumes have none. -/
  noPool : lvm.lvmType = .thick → ∀ b ∈ bindings, b.thin = none

/-- There is no violation just if the class meets all the conditions. -/
theorem violations_eq_nil_iff {c : LocalClass} {bindings : List Binding} {inventory : List VolumeGroup}
    {classes : List StorageClass} :
    violations c bindings inventory classes = [] ↔
      ∃ lvm, c.spec.lvm = some lvm ∧ Admissible c lvm bindings inventory classes := by
  have hpresent (b : Binding) :
      (byName inventory).contains b.name = true ↔ ∃ g, (byName inventory).get? b.name = some g := by
    rw [NameMap.contains, Option.isSome_iff_exists]
  cases hlvm : c.spec.lvm with
  | none => simp [violations, hlvm]
  | some lvm =>
    have hpools : poolViolations lvm.lvmType (byName inventory) bindings = [] ↔
        (lvm.lvmType = .thin → ∀ b ∈ bindings, hostsPool (byName inventory) b = true) ∧
          (lvm.lvmType = .thick → ∀ b ∈ bindings, b.thin = none) := by
      cases lvm.lvmType <;> simp [poolViolations, violationOf_eq_nil_iff]
    simp only [violations, hlvm, lvmViolations, List.append_eq_nil_iff, violationIf_eq_nil_iff,
      violationOf_eq_nil_iff, hpools, sharedNodes_eq_nil_iff, Option.some.injEq, exists_eq_left']
    have hforeign : (foreignClass? c classes).isSome = false ↔ foreignClass? c classes = none := by
      rw [← Bool.not_eq_true, Option.not_isSome_iff_eq_none]
    have hmissing : (bindings.filter (fun b => !(byName inventory).contains b.name)).map (·.name) = [] ↔
        ∀ b ∈ bindings, ∃ g, (byName inventory).get? b.name = some g := by
      simp [hpresent]
    rw [hforeign, lacksSource_eq_false_iff, List.isEmpty_eq_false_iff, lacksPoolName_eq_false_iff, hmissing]
    constructor
    · rintro ⟨hforeign, ⟨⟨⟨⟨hsource, hbound⟩, hpool⟩, hnodes⟩, hmissing⟩, hthin, hthick⟩
      exact ⟨hforeign, hsource, hbound, hpool, hnodes, hmissing, hthin, hthick⟩
    · rintro ⟨hforeign, hsource, hbound, hpool, hnodes, hmissing, hthin, hthick⟩
      exact ⟨hforeign, ⟨⟨⟨⟨hsource, hbound⟩, hpool⟩, hnodes⟩, hmissing⟩, hthin, hthick⟩

/-! ### What the checks look at -/

/-- The checks tell two inventories apart by the groups of the nodes and by those under the names of the bindings. -/
theorem violations_congr {c : LocalClass} {bindings : List Binding} {inventory inventory' : List VolumeGroup}
    (hnodes : groupsByNode inventory bindings = groupsByNode inventory' bindings)
    (hnames : ∀ b ∈ bindings, (byName inventory).get? b.name = (byName inventory').get? b.name)
    (classes : List StorageClass) : violations c bindings inventory classes = violations c bindings inventory' classes := by
  have hmissing : bindings.filter (fun b => !(byName inventory).contains b.name) =
      bindings.filter (fun b => !(byName inventory').contains b.name) := by
    refine List.filter_congr fun b hb => ?_
    rw [NameMap.contains, NameMap.contains, hnames b hb]
  have hhosts : bindings.filter (fun b => !hostsPool (byName inventory) b) =
      bindings.filter (fun b => !hostsPool (byName inventory') b) := by
    refine List.filter_congr fun b hb => ?_
    rw [hostsPool, hostsPool, hnames b hb]
  cases hlvm : c.spec.lvm with
  | none => simp only [violations, hlvm]
  | some lvm => cases hty : lvm.lvmType <;>
      simp only [violations, hlvm, lvmViolations, sharedNodes, hnodes, hmissing, poolViolations, hhosts, hty]

end LocalVolumes
