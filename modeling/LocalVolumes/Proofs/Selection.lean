import LocalVolumes.Causes
import LocalVolumes.Proofs.NameMap
import LocalVolumes.Proofs.Placement

/-!
# LocalVolumes.Proofs.Selection — the best place among the candidates

A volume that is bound at once goes where the most space is free.  The node is found first, from the most free space
on each node, and then the group on the node.  The two searches agree: what the node was chosen for is what the chosen
group has free, so the space that is compared with the size of the volume is that of the place.  A volume whose node is
given goes to the best group there.
-/

namespace LocalVolumes

namespace Placement

/-! ### The node with the most free space -/

/-- The largest number of bytes that a candidate has free. -/
def mostFree? (cs : List Candidate) : Option Nat := (cs.map (·.freeBytes)).max?

theorem mostFree?_eq_some_iff {cs : List Candidate} {m : Nat} :
    mostFree? cs = some m ↔ (∃ c ∈ cs, c.freeBytes = m) ∧ ∀ c ∈ cs, c.freeBytes ≤ m := by
  rw [mostFree?, List.max?_eq_some_iff, List.mem_map, List.forall_mem_map]

/-- A node keeps what it had, unless one of its candidates has more. -/
theorem get?_foldl_freeByNode (cs : List Candidate) (known : NameMap Nat) (n : String) :
    (cs.foldl (fun m c => m.insert c.node (max ((m.get? c.node).getD 0) c.freeBytes)) known).get? n =
      (known.get? n).merge max (mostFree? (cs.filter (·.node == n))) := by
  induction cs generalizing known with
  | nil => simp [mostFree?]
  | cons c cs ih =>
    rw [List.foldl_cons, ih, NameMap.get?_insert]
    by_cases hn : n = c.node
    · have hfilter : (c :: cs).filter (·.node == n) = c :: cs.filter (·.node == n) :=
        List.filter_cons_of_pos (by simp [hn])
      rw [if_pos hn, hfilter, mostFree?, mostFree?, List.map_cons, List.max?_cons, ← hn]
      cases known.get? n <;> cases ((cs.filter (·.node == n)).map (·.freeBytes)).max? <;> simp [Nat.max_assoc]
    · have hfilter : (c :: cs).filter (·.node == n) = cs.filter (·.node == n) :=
        List.filter_cons_of_neg (by simp [Ne.symm hn])
      rw [if_neg hn, hfilter]

theorem mem_freeByNode_iff {cs : List Candidate} {n : String} {m : Nat} :
    (n, m) ∈ (freeByNode cs).toList ↔ mostFree? (cs.filter (·.node == n)) = some m := by
  rw [NameMap.toList, NameMap.mem_entries_iff, freeByNode, get?_foldl_freeByNode, NameMap.get?_empty,
    Option.merge_none_left]

/-- The node of a candidate has an entry, with no less than what the candidate has free. -/
theorem exists_mem_freeByNode {cs : List Candidate} {c : Candidate} (hc : c ∈ cs) :
    ∃ m, (c.node, m) ∈ (freeByNode cs).toList ∧ c.freeBytes ≤ m := by
  have hon : c ∈ cs.filter (·.node == c.node) := List.mem_filter.2 ⟨hc, beq_self_eq_true _⟩
  cases hm : mostFree? (cs.filter (·.node == c.node)) with
  | none =>
    have hnil := List.max?_eq_none_iff.1 hm
    exact absurd (List.map_eq_nil_iff.1 hnil) (List.ne_nil_of_mem hon)
  | some m => exact ⟨m, mem_freeByNode_iff.2 hm, (mostFree?_eq_some_iff.1 hm).2 c hon⟩

/-- Of the nodes of the candidates one has the most free space, and none that has as much has a lesser name. -/
theorem exists_bestNode? {cs : List Candidate} (hne : cs ≠ []) :
    ∃ e ∈ (freeByNode cs).toList, bestNode? cs = some e ∧
      ∀ e' ∈ (freeByNode cs).toList, Ahead Prod.snd Prod.fst e e' := by
  have hentries : (freeByNode cs).toList ≠ [] := by
    obtain ⟨c, hc⟩ := List.exists_mem_of_ne_nil cs hne
    obtain ⟨m, hm, -⟩ := exists_mem_freeByNode hc
    exact List.ne_nil_of_mem hm
  -- the nodes ascend, so one that comes later must have more
  refine exists_best_of_foldl Ahead.refl Ahead.trans (fun _ => rfl) (fun b e hlt => ?_)
    (freeByNode cs).ascending hentries
  by_cases hmore : b.2 < e.2
  · exact .inr ⟨if_pos hmore, .inl hmore⟩
  · refine .inl ⟨if_neg hmore, (Nat.lt_or_eq_of_le (Nat.le_of_not_lt hmore)).imp_right fun heq => ⟨heq, ?_⟩⟩
    exact Std.le_of_lt hlt

/-- A candidate is the first choice on all nodes: none has more free space, of those with as much it is on the least
node, and of those on that node it has the least name. -/
structure IsFirstChoice (cs : List Candidate) (c : Candidate) : Prop where
  mem : c ∈ cs
  mostFree : ∀ c' ∈ cs, c'.freeBytes ≤ c.freeBytes
  leastNode : ∀ c' ∈ cs, c'.freeBytes = c.freeBytes → c.node ≤ c'.node
  leastGroup : ∀ c' ∈ cs, c'.node = c.node → c'.freeBytes = c.freeBytes → c.group ≤ c'.group

theorem IsFirstChoice.isBestOn {cs : List Candidate} {c : Candidate} (h : IsFirstChoice cs c) : IsBestOn cs c.node c :=
  ⟨h.mem, rfl, fun c' hc' _ => h.mostFree c' hc', h.leastGroup⟩

/-- Either there are no candidates, or the node of the first choice is found, with what that candidate has free. -/
theorem bestNode?_cases (cs : List Candidate) :
    cs = [] ∧ bestNode? cs = none ∨
      ∃ c, IsFirstChoice cs c ∧ bestNode? cs = some (c.node, c.freeBytes) ∧ bestOn cs c.node = .ok c := by
  by_cases hne : cs = []
  · exact .inl ⟨hne, by rw [hne]; rfl⟩
  obtain ⟨⟨n, m⟩, hmem, hnode, hahead⟩ := exists_bestNode? hne
  obtain ⟨⟨c', hc', rfl⟩, hmost⟩ := mostFree?_eq_some_iff.1 (mem_freeByNode_iff.1 hmem)
  simp only [List.mem_filter, beq_iff_eq, and_imp] at hc' hmost
  obtain ⟨hc', rfl⟩ := hc'
  obtain ⟨c, hbest, hok⟩ := (bestOn_cases cs c'.node).resolve_left fun hnone => hnone.1 c' hc' rfl
  -- the group that is found on the node has what the node was chosen for
  have hfree : c.freeBytes = c'.freeBytes :=
    Nat.le_antisymm (hmost c hbest.mem hbest.node) (hbest.mostFree c' hc' rfl)
  rw [← hbest.node] at hnode hok hahead hbest
  rw [← hfree] at hnode hahead
  refine .inr ⟨c, ⟨hbest.mem, fun c'' hc'' => ?_, fun c'' hc'' heq => ?_, hbest.leastGroup⟩, hnode, hok⟩
  · obtain ⟨m, hm, hle⟩ := exists_mem_freeByNode hc''
    exact Nat.le_trans hle (hahead _ hm).free_le
  · obtain ⟨m, hm, hle⟩ := exists_mem_freeByNode hc''
    exact (hahead _ hm).name_le (Nat.le_antisymm (hahead _ hm).free_le (heq ▸ hle))

/-! ### The place that is selected -/

/-- No place is found for want of a candidate, not of space. -/
def NoCandidate (r : Except Fault Decision) : Prop := ∃ e text, r = .error e ∧ e.toFault = .noCandidate text

theorem not_noCandidate_ok (d : Decision) : ¬ NoCandidate (.ok d) := by
  rintro ⟨e, text, he, -⟩
  cases he

theorem not_noCandidate_insufficient (requested available : Nat) :
    ¬ NoCandidate (.error (.insufficient requested available)) := by
  rintro ⟨e, text, he, htext⟩
  cases he
  cases htext

section Select

variable {cs : List Candidate} {lvmType : LvmType} {mode : BindingMode} {required : Nat} {preferred : Option String}

theorem select_of_chooseNode {n : String} (h : chooseNode cs lvmType mode required preferred = .ok n) :
    select cs lvmType mode required preferred = (bestOn cs n).map Candidate.decision := by
  have hselect : select cs lvmType mode required preferred = (bestOn cs n).bind (fun c => .ok c.decision) := by
    rw [select, h]
    rfl
  rw [hselect]
  cases bestOn cs n <;> rfl

theorem select_of_chooseNode_error {e : Fault} (h : chooseNode cs lvmType mode required preferred = .error e) :
    select cs lvmType mode required preferred = .error e := by
  rw [select, h]
  rfl

/-- At once, it is only the first choice that is compared with the size. -/
theorem select_immediate_cases (cs : List Candidate) (lvmType : LvmType) (required : Nat) (preferred : Option String) :
    cs = [] ∧ select cs lvmType .immediate required preferred = .error .noCandidate ∨
      ∃ c, IsFirstChoice cs c ∧ select cs lvmType .immediate required preferred =
        if lvmType = .thick ∧ c.freeBytes < required then .error (.insufficient required c.freeBytes)
        else .ok c.decision := by
  rcases bestNode?_cases cs with ⟨hnil, hnone⟩ | ⟨c, hfirst, hnode, hok⟩
  · exact .inl ⟨hnil, select_of_chooseNode_error (by simp only [chooseNode, hnone])⟩
  · refine .inr ⟨c, hfirst, ?_⟩
    split
    · next hlack => exact select_of_chooseNode_error (by simp only [chooseNode, hnode, if_pos hlack])
    · next hlack =>
      rw [select_of_chooseNode (n := c.node) (by simp only [chooseNode, hnode, if_neg hlack]), hok]
      rfl

/-- Where a node is waited for, it is the best group on it, if a node is given and has one. -/
theorem select_wait_cases (cs : List Candidate) (lvmType : LvmType) (required : Nat) (preferred : Option String) :
    (∀ n, preferred = some n → n ≠ "" → ∀ c ∈ cs, c.node ≠ n) ∧
        NoCandidate (select cs lvmType .waitForFirstConsumer required preferred) ∨
      ∃ n c, preferred = some n ∧ n ≠ "" ∧ IsBestOn cs n c ∧
        select cs lvmType .waitForFirstConsumer required preferred = .ok c.decision := by
  rcases preferred with _ | n
  · exact .inl ⟨fun n hn => (by cases hn), .noPreference, _, rfl, rfl⟩
  by_cases hempty : n = ""
  · refine .inl ⟨fun n' hn' hne => absurd (Option.some.inj hn' ▸ hempty) hne, .noPreference, _, ?_, rfl⟩
    exact select_of_chooseNode_error (by simp only [chooseNode, if_pos hempty])
  have hselect : select cs lvmType .waitForFirstConsumer required (some n) = (bestOn cs n).map Candidate.decision :=
    select_of_chooseNode (by simp only [chooseNode, if_neg hempty])
  rcases bestOn_cases cs n with ⟨hnone, herror⟩ | ⟨c, hbest, hok⟩
  · refine .inl ⟨fun n' hn' _ => Option.some.inj hn' ▸ hnone, .noGroupOn n, _, ?_, rfl⟩
    rw [hselect, herror]
    rfl
  · refine .inr ⟨n, c, rfl, hempty, hbest, ?_⟩
    rw [hselect, hok]
    rfl

end Select

/-! ### The order of the candidates -/

section Perm

variable {cs cs' : List Candidate}

theorem IsBestOn.of_perm (hperm : cs'.Perm cs) {n : String} {c : Candidate} (h : IsBestOn cs' n c) :
    IsBestOn cs n c where
  mem := hperm.mem_iff.1 h.mem
  node := h.node
  mostFree c' hc' := h.mostFree c' (hperm.mem_iff.2 hc')
  leastGroup c' hc' := h.leastGroup c' (hperm.mem_iff.2 hc')

theorem IsFirstChoice.of_perm (hperm : cs'.Perm cs) {c : Candidate} (h : IsFirstChoice cs' c) : IsFirstChoice cs c where
  mem := hperm.mem_iff.1 h.mem
  mostFree c' hc' := h.mostFree c' (hperm.mem_iff.2 hc')
  leastNode c' hc' := h.leastNode c' (hperm.mem_iff.2 hc')
  leastGroup c' hc' := h.leastGroup c' (hperm.mem_iff.2 hc')

variable (hdistinct : (cs.map (·.group)).Nodup)
include hdistinct

/-- There is but one best candidate on a node. -/
theorem IsBestOn.unique {n : String} {c c' : Candidate} (h : IsBestOn cs n c) (h' : IsBestOn cs n c') : c = c' := by
  have hfree : c.freeBytes = c'.freeBytes :=
    Nat.le_antisymm (h'.mostFree c h.mem h.node) (h.mostFree c' h'.mem h'.node)
  refine List.inj_on_of_nodup_map hdistinct h.mem h'.mem (String.le_antisymm ?_ ?_)
  · exact h.leastGroup c' h'.mem h'.node hfree.symm
  · exact h'.leastGroup c h.mem h.node hfree

/-- There is but one first choice. -/
theorem IsFirstChoice.unique {c c' : Candidate} (h : IsFirstChoice cs c) (h' : IsFirstChoice cs c') : c = c' := by
  have hfree : c.freeBytes = c'.freeBytes := Nat.le_antisymm (h'.mostFree c h.mem) (h.mostFree c' h'.mem)
  have hnode : c.node = c'.node :=
    String.le_antisymm (h.leastNode c' h'.mem hfree.symm) (h'.leastNode c h.mem hfree)
  exact h.isBestOn.unique hdistinct (hnode ▸ h'.isBestOn)

theorem bestOn_perm (hperm : cs'.Perm cs) (n : String) : bestOn cs' n = bestOn cs n := by
  rcases bestOn_cases cs' n with ⟨hnone', herror'⟩ | ⟨c', hbest', hok'⟩ <;>
    rcases bestOn_cases cs n with ⟨hnone, herror⟩ | ⟨c, hbest, hok⟩
  · rw [herror', herror]
  · exact absurd hbest.node (hnone' c (hperm.mem_iff.2 hbest.mem))
  · exact absurd hbest'.node (hnone c' (hperm.mem_iff.1 hbest'.mem))
  · rw [hok', hok, (hbest'.of_perm hperm).unique hdistinct hbest]

theorem bestNode?_perm (hperm : cs'.Perm cs) : bestNode? cs' = bestNode? cs := by
  rcases bestNode?_cases cs with ⟨rfl, -⟩ | ⟨c, hfirst, hnode, -⟩
  · rw [hperm.eq_nil]
  · rcases bestNode?_cases cs' with ⟨rfl, -⟩ | ⟨c', hfirst', hnode', -⟩
    · exact absurd (hperm.mem_iff.2 hfirst.mem) List.not_mem_nil
    · rw [hnode', hnode, (hfirst'.of_perm hperm).unique hdistinct hfirst]

theorem select_perm (hperm : cs'.Perm cs) (lvmType : LvmType) (mode : BindingMode) (required : Nat)
    (preferred : Option String) :
    select cs' lvmType mode required preferred = select cs lvmType mode required preferred := by
  simp only [select, chooseNode, bestNode?_perm hdistinct hperm, bestOn_perm hdistinct hperm]

end Perm

/-! ### All selections -/

/-- A place is the one of a candidate: its node and its group, the group as the node knows it, and its pool. -/
structure IsPlaceOf (c : Candidate) (d : Decision) : Prop where
  node : d.node = c.node
  group : d.group = c.group
  vgName : d.vgName = c.vgName
  thinPool : d.thinPool = c.thinPool

theorem isPlaceOf_decision (c : Candidate) : IsPlaceOf c c.decision := ⟨rfl, rfl, rfl, rfl⟩

/-- A candidate has but one place. -/
theorem IsPlaceOf.unique {c : Candidate} {d d' : Decision} (h : IsPlaceOf c d) (h' : IsPlaceOf c d') : d = d' := by
  cases d
  cases d'
  rw [Decision.mk.injEq]
  exact ⟨h.node.trans h'.node.symm, h.group.trans h'.group.symm, h.vgName.trans h'.vgName.symm,
    h.thinPool.trans h'.thinPool.symm⟩

/-- What is selected at once, on all nodes. -/
structure SelectsAtOnce (cs : List Candidate) (lvmType : LvmType) (required : Nat) (r : Except Fault Decision) :
    Prop where
  noCandidate : NoCandidate r ↔ cs = []
  insufficient : ∀ m, mostFree? cs = some m →
    (r = .error (.insufficient required m) ↔ lvmType = .thick ∧ m < required)
  chosen : ∀ m, mostFree? cs = some m → ¬ (lvmType = .thick ∧ m < required) →
    ∃ c d, IsFirstChoice cs c ∧ c.freeBytes = m ∧ r = .ok d ∧ IsPlaceOf c d

/-- What is selected on a node, if one is given. -/
structure SelectsOn (cs : List Candidate) (preferred : Option String) (r : Except Fault Decision) : Prop where
  noCandidate : NoCandidate r ↔ ∀ n, preferred = some n → n ≠ "" → ∀ c ∈ cs, c.node ≠ n
  chosen : ∀ n, preferred = some n → n ≠ "" → (∃ c ∈ cs, c.node = n) →
    ∃ c d, IsBestOn cs n c ∧ r = .ok d ∧ IsPlaceOf c d

theorem selectsAtOnce (cs : List Candidate) (lvmType : LvmType) (required : Nat) (preferred : Option String) :
    SelectsAtOnce cs lvmType required (select cs lvmType .immediate required preferred) := by
  rcases select_immediate_cases cs lvmType required preferred with ⟨rfl, herror⟩ | ⟨c, hfirst, hselect⟩
  · rw [herror]
    exact ⟨iff_of_true ⟨_, _, rfl, rfl⟩ rfl, fun m hm => (by cases hm), fun m hm => (by cases hm)⟩
  · have hne : cs ≠ [] := List.ne_nil_of_mem hfirst.mem
    have hmost {m : Nat} (hm : mostFree? cs = some m) : m = c.freeBytes := by
      have hc : mostFree? cs = some c.freeBytes := mostFree?_eq_some_iff.2 ⟨⟨c, hfirst.mem, rfl⟩, hfirst.mostFree⟩
      exact Option.some.inj (hm.symm.trans hc)
    rw [hselect]
    split
    · next hlack =>
      refine ⟨iff_of_false (not_noCandidate_insufficient _ _) hne, fun m hm => ?_, fun m hm hfits => ?_⟩
      · rw [hmost hm]
        exact iff_of_true rfl hlack
      · rw [hmost hm] at hfits
        exact absurd hlack hfits
    · next hfits =>
      refine ⟨iff_of_false (not_noCandidate_ok _) hne, fun m hm => ?_, fun m hm _ => ?_⟩
      · rw [hmost hm]
        exact iff_of_false (fun h => by cases h) hfits
      · exact ⟨c, c.decision, hfirst, (hmost hm).symm, rfl, isPlaceOf_decision c⟩

theorem selectsOn (cs : List Candidate) (lvmType : LvmType) (required : Nat) (preferred : Option String) :
    SelectsOn cs preferred (select cs lvmType .waitForFirstConsumer required preferred) := by
  rcases select_wait_cases cs lvmType required preferred with ⟨hnone, herror⟩ | ⟨n, c, rfl, hne, hbest, hok⟩
  · exact ⟨iff_of_true herror hnone, fun n hn hne ⟨c, hc, hnode⟩ => absurd hnode (hnone n hn hne c hc)⟩
  · rw [hok]
    refine ⟨iff_of_false (not_noCandidate_ok _) fun hnone => hnone n rfl hne c hbest.mem hbest.node, ?_⟩
    rintro n' hn' - -
    obtain rfl := Option.some.inj hn'
    exact ⟨c, c.decision, hbest, rfl, isPlaceOf_decision c⟩

end Placement

open Placement

/-- **The best place is selected.**  At once there is no candidate just if there are none at all.  Otherwise a thick
volume that is larger than the most that any candidate has free is turned down with both sizes, and every other volume
goes to a candidate with that much, on the least node that has one and in the least group there.  Where a node is
waited for, it is the group on it with the most free space, and there is no candidate just if no node is given or none
is there. If the groups differ it does not matter in which order they come. -/
theorem selection_is_best (cs : List Candidate) (lvmType : LvmType) (required : Nat) (preferred : Option String) :
    SelectsAtOnce cs lvmType required (select cs lvmType .immediate required preferred) ∧
      SelectsOn cs preferred (select cs lvmType .waitForFirstConsumer required preferred) ∧
      ((cs.map (·.group)).Nodup → ∀ cs', cs'.Perm cs → ∀ mode,
        select cs' lvmType mode required preferred = select cs lvmType mode required preferred) :=
  ⟨selectsAtOnce cs lvmType required preferred, selectsOn cs lvmType required preferred,
    fun hdistinct _ hperm mode => select_perm hdistinct hperm lvmType mode required preferred⟩

namespace Sample

/-- Groups on three nodes, two of which have as much free space in their best groups; all but one have a pool. -/
def spread : List Candidate :=
  [⟨"vg-4", "node-3", "fast", some "pool-4", 8⟩, ⟨"vg-3", "node-2", "slow", some "pool-3", 8⟩,
    ⟨"vg-2", "node-2", "fast", some "pool-2", 8⟩, ⟨"vg-1", "node-1", "fast", none, 4⟩]

theorem groups_spread : (spread.map (·.group)).Nodup := by decide

theorem mostFree?_spread : mostFree? spread = some 8 := rfl

theorem isFirstChoice_spread : IsFirstChoice spread ⟨"vg-2", "node-2", "fast", some "pool-2", 8⟩ :=
  ⟨by decide, by decide, by decide, by decide⟩

theorem isBestOn_spread : IsBestOn spread "node-1" ⟨"vg-1", "node-1", "fast", none, 4⟩ :=
  ⟨by decide, by decide, by decide, by decide⟩

end Sample

/-- A thick volume of the most that is free fits, wherever the groups stand in the list, and a larger one does not; of
thin volumes a larger one does.  On the node that is given there is room without a pool. -/
theorem selection_is_best_shared :
    select Sample.spread .thick .immediate 9 none = .error (.insufficient 9 8) ∧
      select Sample.spread.reverse .thick .immediate 8 none = .ok ⟨"node-2", "vg-2", "fast", some "pool-2"⟩ ∧
      select Sample.spread .thin .immediate 9 none = .ok ⟨"node-2", "vg-2", "fast", some "pool-2"⟩ ∧
      select Sample.spread.reverse .thick .waitForFirstConsumer 9 (some "node-1") =
        .ok ⟨"node-1", "vg-1", "fast", none⟩ ∧
      NoCandidate (select Sample.spread .thick .waitForFirstConsumer 9 (some "")) := by
  have hperm : Sample.spread.reverse.Perm Sample.spread := List.reverse_perm _
  -- the places of the two candidates that are chosen below
  have hfirst {c : Candidate} {d : Decision} (hc : IsFirstChoice Sample.spread c) (hd : IsPlaceOf c d) :
      d = ⟨"node-2", "vg-2", "fast", some "pool-2"⟩ :=
    (hc.unique Sample.groups_spread Sample.isFirstChoice_spread ▸ hd).unique ⟨rfl, rfl, rfl, rfl⟩
  have hbest {c : Candidate} {d : Decision} (hc : IsBestOn Sample.spread "node-1" c) (hd : IsPlaceOf c d) :
      d = ⟨"node-1", "vg-1", "fast", none⟩ :=
    (hc.unique Sample.groups_spread Sample.isBestOn_spread ▸ hd).unique ⟨rfl, rfl, rfl, rfl⟩
  obtain ⟨hlarge, -, -⟩ := selection_is_best Sample.spread .thick 9 none
  obtain ⟨hfit, -, hany⟩ := selection_is_best Sample.spread .thick 8 none
  obtain ⟨hthin, -, -⟩ := selection_is_best Sample.spread .thin 9 none
  obtain ⟨-, hon, hany'⟩ := selection_is_best Sample.spread .thick 9 (some "node-1")
  obtain ⟨-, hempty, -⟩ := selection_is_best Sample.spread .thick 9 (some "")
  refine ⟨(hlarge.insufficient 8 Sample.mostFree?_spread).2 ⟨rfl, by decide⟩, ?_, ?_, ?_, ?_⟩
  · obtain ⟨c, d, hc, -, hok, hd⟩ := hfit.chosen 8 Sample.mostFree?_spread (by decide)
    rw [hany Sample.groups_spread _ hperm, hok, hfirst hc hd]
  · obtain ⟨c, d, hc, -, hok, hd⟩ := hthin.chosen 8 Sample.mostFree?_spread (by decide)
    rw [hok, hfirst hc hd]
  · obtain ⟨c, d, hc, hok, hd⟩ := hon.chosen "node-1" rfl (by decide) (by decide)
    rw [hany' Sample.groups_spread _ hperm, hok, hbest hc hd]
  · exact hempty.noCandidate.2 fun n hn hne => absurd (Option.some.inj hn).symm hne

end LocalVolumes
