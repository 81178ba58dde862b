import LocalVolumes.Proofs.Admission
import Mathlib.Data.List.Forall2

/-!
# LocalVolumes.Proofs.Report — a report tells all that is wrong with a class

A class is judged by seven conditions.  Here they speak of the groups, the bindings and the storage classes themselves,
and not of the tables that the checks go through.  A report has one violation for each condition that fails, in the
order of the conditions, and what a violation lists is what its condition fails for.
-/

namespace LocalVolumes

open Admission

/-! ### Conditions -/

/-- What is asked of a class with volume groups. -/
inductive Condition
  /-- No storage class of the name belongs to someone else. -/
  | unclaimed
  /-- Groups are listed, or a selector is given. -/
  | source
  /-- Some group is bound. -/
  | bound
  /-- A selector of thin groups comes with the pool. -/
  | poolName
  /-- No node reports two of the bound groups. -/
  | exclusive
  /-- The bound groups are there. -/
  | present
  /-- Thin volumes have a pool in every bound group, and thick ones have none. -/
  | pools
  deriving DecidableEq, Repr

/-- The conditions, in the order of the checks. -/
def Condition.all : List Condition := [.unclaimed, .source, .bound, .poolName, .exclusive, .present, .pools]

/-- A bound group of the name reports the node. -/
def IsBoundOn (inventory : List VolumeGroup) (bindings : List Binding) (node n : String) : Prop :=
  ∃ g ∈ inventory, g.name = n ∧ (∃ b ∈ bindings, b.name = n) ∧ node ∈ g.nodeNames

namespace Binding

/-- The group of a binding is there. -/
def IsPresent (inventory : List VolumeGroup) (b : Binding) : Prop := ∃ g ∈ inventory, g.name = b.name

/-- The group of a binding is there and has the pool. -/
def IsHosted (inventory : List VolumeGroup) (b : Binding) : Prop :=
  ∃ g ∈ inventory, g.name = b.name ∧ ∃ pool ∈ g.pools, b.poolName? = some pool.name

instance (inventory : List VolumeGroup) (b : Binding) : Decidable (b.IsPresent inventory) :=
  inferInstanceAs (Decidable (∃ g ∈ inventory, g.name = b.name))

instance (inventory : List VolumeGroup) (b : Binding) : Decidable (b.IsHosted inventory) :=
  inferInstanceAs (Decidable (∃ g ∈ inventory, g.name = b.name ∧ ∃ pool ∈ g.pools, b.poolName? = some pool.name))

end Binding

/-- The nodes that report several bound groups, ascending, each with the names of all of these, ascending. -/
structure ListsShared (inventory : List VolumeGroup) (bindings : List Binding) (nodes : List (String × List String)) :
    Prop where
  ascending : nodes.Pairwise (fun a b => a.1 < b.1)
  mem_iff : ∀ node names, (node, names) ∈ nodes ↔
    (names.Pairwise (· < ·) ∧ ∀ n, n ∈ names ↔ IsBoundOn inventory bindings node n) ∧ 1 < names.length

section Judged

variable (c : LocalClass) (lvm : LvmSpec) (bindings : List Binding) (inventory : List VolumeGroup)
  (classes : List StorageClass)

/-- Whether a class meets a condition. -/
def Condition.Holds : Condition → Prop
  | .unclaimed => ∀ sc ∈ classes, sc.metadata.name = some c.name → sc.provisioner = Marks.provisioner
  | .source => lvm.groups ≠ [] ∨ lvm.selector.isSome
  | .bound => bindings ≠ []
  | .poolName =>
    ¬ (lvm.lvmType = .thin ∧ lvm.selector.isSome ∧ (lvm.thinPoolName = none ∨ lvm.thinPoolName = some ""))
  | .exclusive => ∀ node n n', IsBoundOn inventory bindings node n → IsBoundOn inventory bindings node n' → n = n'
  | .present => ∀ b ∈ bindings, b.IsPresent inventory
  | .pools =>
    (lvm.lvmType = .thin → ∀ b ∈ bindings, b.IsHosted inventory) ∧
      (lvm.lvmType = .thick → ∀ b ∈ bindings, b.thin = none)

/-- What a violation tells of the condition that fails. -/
inductive Condition.Tells : Condition → Violation → Prop
  | unclaimed : Tells .unclaimed (.foreignClass c.name)
  | source : Tells .source .noSource
  | bound : Tells .bound .noGroups
  | poolName : Tells .poolName .noPoolName
  | exclusive {nodes : List (String × List String)} (h : ListsShared inventory bindings nodes) :
    Tells .exclusive (.sharedNodes nodes)
  | present : Tells .present (.missingGroups ((bindings.filter (fun b => ¬ b.IsPresent inventory)).map (·.name)))
  | thinPools (h : lvm.lvmType = .thin) :
    Tells .pools (.missingPools ((bindings.filter (fun b => ¬ b.IsHosted inventory)).map (·.name)))
  | thickPools (h : lvm.lvmType = .thick) :
    Tells .pools (.surplusPools ((bindings.filter (fun b => b.thin ≠ none)).map (·.name)))

/-! ### The checks -/

/-- The part of a report that a condition accounts for. -/
def Condition.check : Condition → List Violation
  | .unclaimed => violationIf (foreignClass? c classes).isSome (.foreignClass c.name)
  | .source => violationIf (lvm.groups.isEmpty && lvm.selector.isNone) .noSource
  | .bound => violationIf bindings.isEmpty .noGroups
  | .poolName =>
    violationIf (lvm.lvmType == .thin && lvm.selector.isSome && (lvm.thinPoolName.getD "").isEmpty) .noPoolName
  | .exclusive => violationOf .sharedNodes (sharedNodes inventory bindings)
  | .present => violationOf .missingGroups ((bindings.filter (!(byName inventory).contains ·.name)).map (·.name))
  | .pools => poolViolations lvm.lvmType (byName inventory) bindings

/-- A condition that holds adds nothing to a report, and one that fails adds the violation that tells of it. -/
inductive Condition.Settled (k : Condition) : List Violation → Prop
  | met (h : k.Holds c lvm bindings inventory classes) : Settled k []
  | failed {v : Violation} (h : ¬ k.Holds c lvm bindings inventory classes) (hv : k.Tells c lvm bindings inventory v) :
    Settled k [v]

end Judged

namespace Condition

variable {c : LocalClass} {lvm : LvmSpec} {bindings : List Binding} {inventory : List VolumeGroup}
  {classes : List StorageClass} {k : Condition}

theorem violations_eq_flatMap (hlvm : c.spec.lvm = some lvm) :
    violations c bindings inventory classes = Condition.all.flatMap (check c lvm bindings inventory classes) := by
  simp [violations, hlvm, lvmViolations, Condition.all, check]

theorem settled_violationIf {b : Bool} {v : Violation} (h : b = false ↔ k.Holds c lvm bindings inventory classes)
    (hv : k.Tells c lvm bindings inventory v) : k.Settled c lvm bindings inventory classes (violationIf b v) := by
  cases b with
  | false => exact .met (h.1 rfl)
  | true => exact .failed (fun hk => Bool.noConfusion (h.2 hk)) hv

theorem settled_violationOf {α : Type} {v : List α → Violation} {items : List α}
    (h : items = [] ↔ k.Holds c lvm bindings inventory classes) (hv : k.Tells c lvm bindings inventory (v items)) :
    k.Settled c lvm bindings inventory classes (violationOf v items) := by
  cases items with
  | nil => exact .met (h.1 rfl)
  | cons item items => exact .failed (fun hk => List.cons_ne_nil _ _ (h.2 hk)) hv

/-! ### What the checks find -/

theorem isBoundOn_iff {node n : String} :
    IsBoundOn inventory bindings node n ↔ n ∈ (boundOn inventory bindings node).map (·.name) := by
  simp only [IsBoundOn, List.mem_map, mem_boundOn_iff]
  constructor
  · rintro ⟨g, hg, rfl, hb, hnode⟩
    exact ⟨g, ⟨hg, hb, hnode⟩, rfl⟩
  · rintro ⟨g, ⟨hg, hb, hnode⟩, rfl⟩
    exact ⟨g, hg, rfl, hb, hnode⟩

/-- The nodes that the check of shared nodes finds. -/
theorem listsShared_sharedNodes : ListsShared inventory bindings (sharedNodes inventory bindings) := by
  refine ⟨pairwise_sharedNodes inventory bindings, fun node names => ?_⟩
  simp only [mem_sharedNodes_iff, sortedNames_eq_iff, isBoundOn_iff]

theorem sharedNodes_eq_nil_iff_holds :
    sharedNodes inventory bindings = [] ↔ exclusive.Holds c lvm bindings inventory classes := by
  simp only [sharedNodes_eq_nil_iff, Holds, isBoundOn_iff, List.mem_map]
  constructor
  · rintro h node _ _ ⟨g, hg, rfl⟩ ⟨g', hg', rfl⟩
    exact h node g hg g' hg'
  · exact fun h node g hg g' hg' => h node _ _ ⟨g, hg, rfl⟩ ⟨g', hg', rfl⟩

theorem contains_byName_iff {b : Binding} : (byName inventory).contains b.name = true ↔ b.IsPresent inventory := by
  simp [NameMap.contains, get?_byName, Binding.IsPresent]

theorem hasPool_iff {g : VolumeGroup} {pool : String} : g.hasPool pool = true ↔ ∃ p ∈ g.pools, p.name = pool := by
  simp [VolumeGroup.hasPool, VolumeGroup.pool?]

theorem hostsPool_iff (hdistinct : (inventory.map (·.name)).Nodup) {b : Binding} :
    hostsPool (byName inventory) b = true ↔ b.IsHosted inventory := by
  unfold hostsPool
  constructor
  · intro h
    split at h
    · next pool g hpool hg =>
      obtain ⟨hmem, hn⟩ := (get?_byName_iff hdistinct).1 hg
      obtain ⟨p, hp, rfl⟩ := hasPool_iff.1 h
      exact ⟨g, hmem, hn, p, hp, hpool⟩
    · cases h
  · rintro ⟨g, hmem, hn, p, hp, hpool⟩
    rw [hpool, (get?_byName_iff hdistinct).2 ⟨hmem, hn⟩]
    exact hasPool_iff.2 ⟨p, hp, rfl⟩

/-- Every check settles its condition. -/
theorem settled_check (hdistinct : (inventory.map (·.name)).Nodup) (k : Condition) :
    k.Settled c lvm bindings inventory classes (k.check c lvm bindings inventory classes) := by
  cases k with
  | unclaimed =>
    refine settled_violationIf ?_ .unclaimed
    rw [← Bool.not_eq_true, Option.not_isSome_iff_eq_none]
    exact foreignClass?_eq_none_iff
  | source => exact settled_violationIf lacksSource_eq_false_iff .source
  | bound => exact settled_violationIf List.isEmpty_eq_false_iff .bound
  | poolName =>
    refine settled_violationIf (lacksPoolName_eq_false_iff.trans ?_) .poolName
    cases hpool : lvm.thinPoolName <;> simp [Holds, hpool]
  | exclusive => exact settled_violationOf sharedNodes_eq_nil_iff_holds (.exclusive listsShared_sharedNodes)
  | present =>
    have hmissing : bindings.filter (fun b => !(byName inventory).contains b.name) =
        bindings.filter (fun b => ¬ b.IsPresent inventory) := by
      refine List.filter_congr fun b _ => ?_
      simp only [← contains_byName_iff, Bool.not_eq_true, Bool.decide_eq_false]
    rw [check, hmissing]
    exact settled_violationOf (by simp [Holds]) .present
  | pools =>
    cases hty : lvm.lvmType with
    | thin =>
      have hmissing : bindings.filter (fun b => !hostsPool (byName inventory) b) =
          bindings.filter (fun b => ¬ b.IsHosted inventory) := by
        refine List.filter_congr fun b _ => ?_
        simp only [← hostsPool_iff hdistinct, Bool.not_eq_true, Bool.decide_eq_false]
      rw [check, hty, poolViolations, hmissing]
      exact settled_violationOf (by simp [Holds, hty]) (.thinPools hty)
    | thick =>
      have hsurplus : bindings.filter (fun b => b.thin.isSome) = bindings.filter (fun b => b.thin ≠ none) := by
        refine List.filter_congr fun b _ => ?_
        cases b.thin <;> rfl
      rw [check, hty, poolViolations, hsurplus]
      exact settled_violationOf (by simp [Holds, hty]) (.thickPools hty)

/-- The violations of some conditions are those of the ones among them that fail, in their order. -/
theorem exists_failed {checks : Condition → List Violation} {ks : List Condition}
    (h : ∀ k ∈ ks, k.Settled c lvm bindings inventory classes (checks k)) :
    ∃ failed, failed.Sublist ks ∧ (∀ k ∈ ks, k ∈ failed ↔ ¬ k.Holds c lvm bindings inventory classes) ∧
      List.Forall₂ (Tells c lvm bindings inventory) failed (ks.flatMap checks) := by
  induction ks with
  | nil => exact ⟨[], .slnil, by simp, .nil⟩
  | cons k ks ih =>
    obtain ⟨failed, hsub, hmem, htells⟩ := ih fun k' hk' => h k' (List.mem_cons_of_mem k hk')
    have hsettled := h k List.mem_cons_self
    rw [List.flatMap_cons]
    generalize checks k = vs at hsettled
    cases hsettled with
    | met hk =>
      have hnot : k ∉ failed := fun hf => (hmem k (hsub.subset hf)).1 hf hk
      exact ⟨failed, hsub.cons k, List.forall_mem_cons.2 ⟨iff_of_false hnot (not_not_intro hk), hmem⟩, htells⟩
    | failed hk hv =>
      refine ⟨k :: failed, hsub.cons_cons k, List.forall_mem_cons.2 ⟨iff_of_true List.mem_cons_self hk, ?_⟩,
        .cons hv htells⟩
      intro k' hk'
      rw [List.mem_cons, hmem k' hk', or_iff_right_iff_imp]
      rintro rfl
      exact hk

end Condition

/-- **A report tells all that is wrong with a class, and nothing else.**  It is empty just if the class meets all
conditions.  Otherwise it has one violation for each condition that fails, in the order of the conditions, and each
lists what its condition fails for. -/
theorem report_tells_what_fails {c : LocalClass} {lvm : LvmSpec} (hlvm : c.spec.lvm = some lvm)
    (bindings : List Binding) {inventory : List VolumeGroup} (hdistinct : (inventory.map (·.name)).Nodup)
    (classes : List StorageClass) :
    (violations c bindings inventory classes = [] ↔ ∀ k : Condition, k.Holds c lvm bindings inventory classes) ∧
      ∃ failed, failed.Sublist Condition.all ∧
        (∀ k, k ∈ failed ↔ ¬ k.Holds c lvm bindings inventory classes) ∧
        List.Forall₂ (Condition.Tells c lvm bindings inventory) failed (violations c bindings inventory classes) := by
  have hsettled (k : Condition) :
      k.Settled c lvm bindings inventory classes (k.check c lvm bindings inventory classes) :=
    Condition.settled_check hdistinct k
  obtain ⟨failed, hsub, hmem, htells⟩ := Condition.exists_failed fun k (_ : k ∈ Condition.all) => hsettled k
  rw [← Condition.violations_eq_flatMap hlvm] at htells
  have hfailed : ∀ k, k ∈ failed ↔ ¬ k.Holds c lvm bindings inventory classes := fun k =>
    hmem k (by cases k <;> decide)
  refine ⟨?_, failed, hsub, hfailed, htells⟩
  have hnil : violations c bindings inventory classes = [] ↔ failed = [] := by
    rw [← List.length_eq_zero_iff, ← htells.length_eq, List.length_eq_zero_iff]
  rw [hnil, List.eq_nil_iff_forall_not_mem]
  simp only [hfailed, not_not]

namespace Sample

/-- Thin volumes in the groups that a selector chooses, of which the pool is missing. -/
def poollessLvm : LvmSpec :=
  { lvmType := .thin, groups := [], selector := some ⟨some (NameMap.ofList [("tier", "fast")]), none⟩
    thinPoolName := some "", volumeCleanup := none, thick := none }

/-- The class of these volumes. -/
def poollessClass : LocalClass :=
  { metadata := { name := some "local" }, spec := ⟨.delete, .immediate, some poollessLvm, none⟩, status := none }

/-- A group on some nodes, with some pools. -/
def reporting (name : String) (nodes pools : List String) : VolumeGroup :=
  { metadata := { name := some name }, spec := ⟨"data"⟩
    status := some ⟨nodes.map (⟨·⟩), none, none, pools.map (⟨·, none, none⟩)⟩ }

end Sample

/-- Five conditions fail at once.  Of the groups that report the first node, one is not bound, and a node that a group
reports twice is not shared for that. -/
theorem report_tells_what_fails_fivefold :
    let bindings := [Binding.ofPool "vg-2" "pool", .ofPool "vg-9" "pool", .ofGroup "vg-1", .ofPool "vg-2" "other"]
    let inventory := [Sample.reporting "vg-2" ["node-1", "node-2", "node-2"] ["pool"],
      Sample.reporting "vg-1" ["node-3", "node-1"] ["pool"], Sample.reporting "vg-3" ["node-1", "node-3"] []]
    let classes : List StorageClass := [{ metadata := { name := some "local" }, provisioner := "other" }]
    let found : List Violation := [.foreignClass "local", .noPoolName, .sharedNodes [("node-1", ["vg-1", "vg-2"])],
      .missingGroups ["vg-9"], .missingPools ["vg-9", "vg-1", "vg-2"]]
    Sample.poollessClass.spec.lvm = some Sample.poollessLvm ∧ (inventory.map (·.name)).Nodup ∧
      violations Sample.poollessClass bindings inventory classes = found ∧
      List.Forall₂ (Condition.Tells Sample.poollessClass Sample.poollessLvm bindings inventory)
        [.unclaimed, .poolName, .exclusive, .present, .pools] found ∧
      ∀ k : Condition, ¬ k.Holds Sample.poollessClass Sample.poollessLvm bindings inventory classes ↔
        k ∈ [Condition.unclaimed, .poolName, .exclusive, .present, .pools] := by
  intro bindings inventory classes found
  have hlvm : Sample.poollessClass.spec.lvm = some Sample.poollessLvm := rfl
  have hdistinct : (inventory.map (·.name)).Nodup := by decide
  have hfound : violations Sample.poollessClass bindings inventory classes = found := by decide
  obtain ⟨-, failed, -, hfailed, htells⟩ := report_tells_what_fails hlvm bindings hdistinct classes
  rw [hfound] at htells
  dsimp only [found] at htells
  have hnames : failed = [.unclaimed, .poolName, .exclusive, .present, .pools] := by
    -- a violation tells which condition has failed
    rcases htells with _ | ⟨⟨⟩, _ | ⟨⟨⟩, _ | ⟨⟨_⟩, _ | ⟨⟨⟩, _ | ⟨⟨_⟩, ⟨⟩⟩⟩⟩⟩⟩
    rfl
  subst hnames
  exact ⟨hlvm, hdistinct, hfound, htells, fun k => (hfailed k).symm⟩

end LocalVolumes
