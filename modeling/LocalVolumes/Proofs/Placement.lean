import LocalVolumes.Proofs.Admission
import LocalVolumes.Proofs.Lists
import LocalVolumes.Proofs.Materialization
import LocalVolumes.Provisioning
import Mathlib.Data.List.Nodup

/-!
# LocalVolumes.Proofs.Placement — where a place comes from

A place is a choice among candidates, and a candidate is made from one of the groups that there are.  So whatever the
requirements on a volume are, its place names a group of the inventory with the node and the name on it that the group
has there.  Where there are candidates on the node, it is the best of them.
-/

namespace LocalVolumes

/-- A place is in a group: it names the group, its node, and the group as the node knows it. -/
def Decision.IsIn (d : Decision) (g : VolumeGroup) : Prop :=
  g.name = d.group ∧ g.primaryNode = some d.node ∧ g.spec.actualName = d.vgName

namespace Placement

open Admission

/-! ### Candidates -/

/-- A candidate comes of a binding whose group is there and reports a node. -/
theorem get?_of_candidate? {lvmType : LvmType} {groups : NameMap VolumeGroup} {b : Binding} {c : Candidate}
    (h : candidate? lvmType groups b = .ok (some c)) :
    c.group = b.name ∧
      ∃ g, groups.get? b.name = some g ∧ g.primaryNode = some c.node ∧ g.spec.actualName = c.vgName := by
  unfold candidate? at h
  split at h
  · simp at h
  · next g hg =>
    split at h
    · simp at h
    · next node hnode =>
      cases hcap : capacity lvmType b g with
      | error e => simp [hcap, Except.map] at h
      | ok found =>
        simp only [hcap, Except.map, Except.ok.injEq, Option.map_eq_some_iff] at h
        obtain ⟨-, -, rfl⟩ := h
        exact ⟨rfl, g, hg, hnode, rfl⟩

/-- Whether a candidate comes of a binding. -/
def yields (lvmType : LvmType) (groups : NameMap VolumeGroup) (b : Binding) : Bool :=
  match candidate? lvmType groups b with
  | .ok (some _) => true
  | .ok none => false
  | .error _ => false

/-- The candidates come one by one of the bindings that yield one. -/
theorem forall₂_candidate? {lvmType : LvmType} {groups : NameMap VolumeGroup} {bindings : List Binding}
    {found : List (Option Candidate)} (h : bindings.map (candidate? lvmType groups) = found.map .ok) :
    List.Forall₂ (fun b c => candidate? lvmType groups b = .ok (some c))
      (bindings.filter (yields lvmType groups)) (found.filterMap id) := by
  induction bindings generalizing found with
  | nil =>
    obtain rfl := List.map_eq_nil_iff.1 h.symm
    exact .nil
  | cons b bindings ih =>
    cases found with
    | nil => simp at h
    | cons o found =>
      obtain ⟨ho, hrest⟩ := List.cons.inj h
      cases o with
      | none =>
        have hno : ¬ yields lvmType groups b = true := by simp [yields, ho]
        rw [List.filter_cons_of_neg hno, List.filterMap_cons_none rfl]
        exact ih hrest
      | some c =>
        have hyes : yields lvmType groups b = true := by simp [yields, ho]
        have hid : id (some c) = some c := rfl
        rw [List.filter_cons_of_pos hyes, List.filterMap_cons_some hid]
        exact .cons ho (ih hrest)

theorem map_group_filterMap {lvmType : LvmType} {groups : NameMap VolumeGroup} {bindings : List Binding}
    {found : List (Option Candidate)} (h : bindings.map (candidate? lvmType groups) = found.map .ok) :
    (found.filterMap id).map (·.group) = (bindings.filter (yields lvmType groups)).map (·.name) := by
  rw [eq_comm, ← List.forall₂_eq_eq_eq, List.forall₂_map_left_iff, List.forall₂_map_right_iff]
  exact (forall₂_candidate? h).imp fun b c hc => (get?_of_candidate? hc).1.symm

section Candidates

variable {inventory : List VolumeGroup} {p : VolumeParameters} {cs : List Candidate}

theorem candidates_eq (inventory : List VolumeGroup) (p : VolumeParameters) :
    candidates inventory p = (p.bindings.mapM (candidate? p.lvmType (byName inventory))).map
      (fun found => (found.filterMap id).mergeSort (fun a b => a.group ≤ b.group)) := rfl

/-- The candidates come of the bindings one by one, and are sorted. -/
theorem candidates_eq_ok_iff :
    candidates inventory p = .ok cs ↔
      ∃ found : List (Option Candidate),
        p.bindings.map (candidate? p.lvmType (byName inventory)) = found.map .ok ∧
        (found.filterMap id).mergeSort (fun a b => a.group ≤ b.group) = cs := by
  rw [candidates_eq]
  simp only [← mapM_eq_ok_iff]
  cases p.bindings.mapM (candidate? p.lvmType (byName inventory)) <;> simp [Except.map]

/-- Where there are no candidates for a fault, it is that of a binding. -/
theorem exists_of_candidates_eq_error {e : Fault} (h : candidates inventory p = .error e) :
    ∃ b ∈ p.bindings, candidate? p.lvmType (byName inventory) b = .error e := by
  refine exists_of_mapM_eq_error ?_
  rw [candidates_eq] at h
  cases hfound : p.bindings.mapM (candidate? p.lvmType (byName inventory)) with
  | error e' =>
    rw [hfound] at h
    exact congrArg _ (Except.error.inj h)
  | ok found =>
    rw [hfound] at h
    cases h

theorem mem_candidates_iff (h : candidates inventory p = .ok cs) {c : Candidate} :
    c ∈ cs ↔ ∃ b ∈ p.bindings, candidate? p.lvmType (byName inventory) b = .ok (some c) := by
  obtain ⟨found, hfound, rfl⟩ := candidates_eq_ok_iff.1 h
  rw [List.mem_mergeSort, ← mem_iff_of_mapM (mapM_eq_ok_iff.2 hfound), List.mem_filterMap]
  simp

/-- There are candidates just if nothing is wrong with a single binding. -/
theorem exists_candidates_iff :
    (∃ cs, candidates inventory p = .ok cs) ↔
      ∀ b ∈ p.bindings, ∃ found, candidate? p.lvmType (byName inventory) b = .ok found := by
  rw [← exists_mapM_iff, candidates_eq]
  cases p.bindings.mapM (candidate? p.lvmType (byName inventory)) <;> simp [Except.map]

/-- Bindings in the order of their names make candidates in that order. -/
theorem map_group_candidates (h : candidates inventory p = .ok cs)
    (hsorted : p.bindings.Pairwise (fun b b' => b.name < b'.name)) :
    cs.map (·.group) = (p.bindings.filter (yields p.lvmType (byName inventory))).map (·.name) := by
  obtain ⟨found, hfound, rfl⟩ := candidates_eq_ok_iff.1 h
  have hgroups := map_group_filterMap hfound
  have hasc : (found.filterMap id).Pairwise (fun a b => a.group < b.group) := by
    rw [← List.pairwise_map, hgroups, List.pairwise_map]
    exact hsorted.filter _
  rw [List.mergeSort_of_pairwise (hasc.imp fun hlt => decide_eq_true (Std.le_of_lt hlt)), hgroups]

/-- Every candidate is in one of the groups that there are. -/
theorem isIn_of_mem_candidates (h : candidates inventory p = .ok cs) {c : Candidate} (hc : c ∈ cs) :
    ∃ g ∈ inventory, c.decision.IsIn g := by
  obtain ⟨b, -, hb⟩ := (mem_candidates_iff h).1 hc
  obtain ⟨hgroup, g, hg, hnode, hname⟩ := get?_of_candidate? hb
  obtain ⟨hmem, hbname⟩ := mem_of_get?_byName hg
  exact ⟨g, hmem, hbname.trans hgroup.symm, hnode, hname⟩

end Candidates

/-! ### Selection -/

/-- A candidate is the best on a node: none there has more free space, and of those with as much it has the least
name. -/
structure IsBestOn (cs : List Candidate) (n : String) (c : Candidate) : Prop where
  mem : c ∈ cs
  node : c.node = n
  mostFree : ∀ c' ∈ cs, c'.node = n → c'.freeBytes ≤ c.freeBytes
  leastGroup : ∀ c' ∈ cs, c'.node = n → c'.freeBytes = c.freeBytes → c.group ≤ c'.group

section Ahead

variable {α : Type} {free : α → Nat} {name : α → String}

/-- The first of two has more free space, or it has as much and not the greater name. -/
def Ahead (free : α → Nat) (name : α → String) (a b : α) : Prop :=
  free b < free a ∨ free b = free a ∧ name a ≤ name b

theorem Ahead.refl (a : α) : Ahead free name a a := .inr ⟨rfl, String.le_refl _⟩

theorem Ahead.trans (a b c : α) (hab : Ahead free name a b) (hbc : Ahead free name b c) : Ahead free name a c := by
  rcases hab with hab | ⟨hab, hle⟩ <;> rcases hbc with hbc | ⟨hbc, hle'⟩
  · exact .inl (Nat.lt_trans hbc hab)
  · exact .inl (hbc ▸ hab)
  · exact .inl (hab ▸ hbc)
  · exact .inr ⟨hbc.trans hab, String.le_trans hle hle'⟩

theorem Ahead.free_le {a b : α} (h : Ahead free name a b) : free b ≤ free a :=
  h.elim Nat.le_of_lt fun h => Nat.le_of_eq h.1

theorem Ahead.name_le {a b : α} (h : Ahead free name a b) (heq : free b = free a) : name a ≤ name b :=
  h.elim (fun hlt => absurd heq (Nat.ne_of_lt hlt)) And.right

end Ahead

theorem better_some_cases (b c : Candidate) :
    better (some b) c = some b ∧ Ahead Candidate.freeBytes Candidate.group b c ∨
      better (some b) c = some c ∧ Ahead Candidate.freeBytes Candidate.group c b := by
  simp only [better]
  split
  · next hlt => exact .inl ⟨rfl, .inl hlt⟩
  · next hlt =>
    split
    · next hle => exact .inl ⟨rfl, .inr ⟨hle.1.symm, hle.2⟩⟩
    · next hle =>
      refine .inr ⟨rfl, ?_⟩
      rcases Nat.lt_or_eq_of_le (Nat.le_of_not_lt hlt) with hlt' | heq
      · exact .inl hlt'
      · exact .inr ⟨heq, (String.le_total b.group c.group).resolve_left fun hgroup => hle ⟨heq, hgroup⟩⟩

/-- Either there is no candidate on a node, or the best one is found. -/
theorem bestOn_cases (cs : List Candidate) (n : String) :
    (∀ c ∈ cs, c.node ≠ n) ∧ bestOn cs n = .error (.noGroupOn n) ∨
      ∃ c, IsBestOn cs n c ∧ bestOn cs n = .ok c := by
  have hmem (c : Candidate) : c ∈ cs.filter (·.node == n) ↔ c ∈ cs ∧ c.node = n := by
    rw [List.mem_filter, beq_iff_eq]
  by_cases hnil : cs.filter (·.node == n) = []
  · refine .inl ⟨fun c hc hnode => ?_, by rw [bestOn, hnil]; rfl⟩
    exact List.ne_nil_of_mem ((hmem c).2 ⟨hc, hnode⟩) hnil
  · obtain ⟨c, hc, hfold, hbest⟩ := exists_best_of_foldl Ahead.refl Ahead.trans (fun _ => rfl)
      (fun b c _ => better_some_cases b c) (List.pairwise_of_forall (R := fun _ _ => True) fun _ _ => trivial) hnil
    obtain ⟨hc, hnode⟩ := (hmem c).1 hc
    refine .inr ⟨c, ⟨hc, hnode, fun c' hc' hnode' => ?_, fun c' hc' hnode' => ?_⟩, by rw [bestOn, hfold]⟩
    · exact (hbest c' ((hmem c').2 ⟨hc', hnode'⟩)).free_le
    · exact (hbest c' ((hmem c').2 ⟨hc', hnode'⟩)).name_le

/-- The best candidate on a node is a candidate on that node. -/
theorem isBestOn_of_bestOn {cs : List Candidate} {node : String} {c : Candidate} (h : bestOn cs node = .ok c) :
    IsBestOn cs node c := by
  rcases bestOn_cases cs node with ⟨-, herror⟩ | ⟨c', hbest, hok⟩
  · cases herror.symm.trans h
  · obtain rfl := Except.ok.inj (hok.symm.trans h)
    exact hbest

/-- Where there is a candidate on a node there is a best one. -/
theorem exists_bestOn {cs : List Candidate} {c : Candidate} (hc : c ∈ cs) : ∃ best, bestOn cs c.node = .ok best := by
  rcases bestOn_cases cs c.node with ⟨hnone, -⟩ | ⟨best, -, hok⟩
  · exact absurd rfl (hnone c hc)
  · exact ⟨best, hok⟩

/-- The best candidate on a node is the only one. -/
theorem bestOn_of_nodup {cs : List Candidate} (h : (cs.map (·.node)).Nodup) {c : Candidate} (hc : c ∈ cs) :
    bestOn cs c.node = .ok c := by
  obtain ⟨best, hbest⟩ := exists_bestOn hc
  have hbest' := isBestOn_of_bestOn hbest
  rw [hbest, List.inj_on_of_nodup_map h hbest'.mem hc hbest'.node]

/-- What is selected is the place of a candidate. -/
theorem mem_of_select {cs : List Candidate} {lvmType : LvmType} {mode : BindingMode} {required : Nat}
    {preferred : Option String} {d : Decision} (h : select cs lvmType mode required preferred = .ok d) :
    ∃ c ∈ cs, c.decision = d := by
  obtain ⟨node, -, h⟩ := Except.eq_ok_of_bind h
  obtain ⟨c, hc, h⟩ := Except.eq_ok_of_bind h
  exact ⟨c, (isBestOn_of_bestOn hc).mem, Except.ok.inj h⟩

end Placement

/-- **The place of a volume is in one of the groups that there are.** -/
theorem Provisioning.isIn_of_place {r : CreateRequest} {p : VolumeParameters} {inventory : List VolumeGroup}
    {d : Decision} (h : place r p inventory = .ok d) : ∃ g ∈ inventory, d.IsIn g := by
  obtain ⟨cs, hcs, h⟩ := Except.eq_ok_of_bind h
  obtain ⟨c, hc, rfl⟩ := Placement.mem_of_select h
  exact Placement.isIn_of_mem_candidates hcs hc

end LocalVolumes
