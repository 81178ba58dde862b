import LocalVolumes.Proofs.Admission
import LocalVolumes.Proofs.Candidates
import LocalVolumes.Proofs.Parameters
import LocalVolumes.Proofs.Resolution

/-!
# LocalVolumes.Proofs.Placeability — volumes of an admitted class find their place

The checks of a class and the placement of its volumes look at the same groups, but share no code.  What the checks
assure is what placement needs: each bound group is there, with its pool, and no node has two of them.  So unless a size
is malformed, every bound group with a node is a candidate, and a volume that asks for this node gets it.
-/

namespace LocalVolumes

open Admission Placement

/-- Whether the group of a binding reports a node. -/
def Binding.hasNode (inventory : List VolumeGroup) (b : Binding) : Bool :=
  ((byName inventory).get? b.name).any (fun g => !g.nodeNames.isEmpty)

/-! ### Single bindings -/

namespace Admissible

variable {c : LocalClass} {lvm : LvmSpec} {bindings : List Binding} {inventory : List VolumeGroup}
  {classes : List StorageClass}

/-- A binding has a pool just if volumes are thin. -/
theorem isSome_poolName?_iff (h : Admissible c lvm bindings inventory classes) {b : Binding} (hb : b ∈ bindings) :
    b.poolName?.isSome ↔ lvm.lvmType = .thin := by
  cases hty : lvm.lvmType with
  | thick => simp [Binding.poolName?, h.noPool hty b hb]
  | thin =>
    have hhosts := h.thinPool hty b hb
    unfold hostsPool at hhosts
    split at hhosts
    · next pool g hpool hg => simp [hpool]
    · simp at hhosts

/-- Volumes would lie in the pool of a binding, or in its group if it has none. -/
theorem pool?_eq (h : Admissible c lvm bindings inventory classes) {b : Binding} (hb : b ∈ bindings) :
    pool? lvm.lvmType b = b.poolName? := by
  cases hty : lvm.lvmType with
  | thick => simp [pool?, Binding.poolName?, h.noPool hty b hb]
  | thin => rfl

/-- Placement does not miss the pool of a binding. -/
theorem isSome_room? (h : Admissible c lvm bindings inventory classes) {b : Binding} (hb : b ∈ bindings)
    {g : VolumeGroup} (hg : (byName inventory).get? b.name = some g) : (room? lvm.lvmType b g).isSome := by
  cases hty : lvm.lvmType with
  | thick => rfl
  | thin =>
    have hhosts := h.thinPool hty b hb
    unfold hostsPool at hhosts
    split at hhosts
    · next pool g' hpool hg' =>
      obtain rfl := Option.some.inj (hg.symm.trans hg')
      rw [room?, hpool, Option.bind_some, Option.isSome_map]
      exact hhosts
    · simp at hhosts

/-- Only sizes can be malformed. -/
theorem capacity_cases (h : Admissible c lvm bindings inventory classes) {b : Binding} (hb : b ∈ bindings)
    {g : VolumeGroup} (hg : (byName inventory).get? b.name = some g) :
    (∃ cause, capacity lvm.lvmType b g = .error (.quantity cause)) ∨
      ∃ free, capacity lvm.lvmType b g = .ok (some (b.poolName?, free)) := by
  obtain ⟨⟨size, taken⟩, hroom⟩ := Option.isSome_iff_exists.1 (h.isSome_room? hb hg)
  rw [capacity_eq (h.isSome_poolName?_iff hb).2, hroom, h.pool?_eq hb]
  cases hleft : Quantity.remaining size taken with
  | error cause => exact .inl ⟨cause, by simp only [hleft]; rfl⟩
  | ok free => exact .inr ⟨free, by simp only [hleft]; rfl⟩

/-- What placement makes of a binding: a fault of its sizes, nothing without a node, or the candidate on the node. -/
theorem candidate?_cases (h : Admissible c lvm bindings inventory classes) {b : Binding} (hb : b ∈ bindings) :
    ∃ g, (byName inventory).get? b.name = some g ∧
      ((∃ cause, candidate? lvm.lvmType (byName inventory) b = .error (.quantity cause) ∧
          capacity lvm.lvmType b g = .error (.quantity cause)) ∨
        (candidate? lvm.lvmType (byName inventory) b = .ok none ∧ g.primaryNode = none) ∨
        ∃ node free, candidate? lvm.lvmType (byName inventory) b =
          .ok (some ⟨b.name, node, g.spec.actualName, b.poolName?, free⟩) ∧ g.primaryNode = some node) := by
  obtain ⟨g, hg⟩ := h.present b hb
  refine ⟨g, hg, ?_⟩
  cases hnode : g.primaryNode with
  | none => exact .inr (.inl ⟨by simp [candidate?, hg, hnode], rfl⟩)
  | some node =>
    rcases h.capacity_cases hb hg with ⟨cause, hcap⟩ | ⟨free, hcap⟩
    · exact .inl ⟨cause, by simp [candidate?, hg, hnode, hcap, Except.map], hcap⟩
    · exact .inr (.inr ⟨node, free, by simp [candidate?, hg, hnode, hcap, Except.map], rfl⟩)

/-- No two bound groups have a node in common. -/
theorem eq_of_node (h : Admissible c lvm bindings inventory classes) {b b' : Binding} (hb : b ∈ bindings)
    (hb' : b' ∈ bindings) {g g' : VolumeGroup} (hg : (byName inventory).get? b.name = some g)
    (hg' : (byName inventory).get? b'.name = some g') {node : String} (hnode : g.primaryNode = some node)
    (hnode' : g'.primaryNode = some node) : b.name = b'.name := by
  obtain ⟨hmem, hname⟩ := mem_of_get?_byName hg
  obtain ⟨hmem', hname'⟩ := mem_of_get?_byName hg'
  have hon : g ∈ boundOn inventory bindings node :=
    mem_boundOn_iff.2 ⟨hmem, ⟨b, hb, hname.symm⟩, List.mem_of_head? hnode⟩
  have hon' : g' ∈ boundOn inventory bindings node :=
    mem_boundOn_iff.2 ⟨hmem', ⟨b', hb', hname'.symm⟩, List.mem_of_head? hnode'⟩
  rw [← hname, ← hname']
  exact h.exclusive node g hon g' hon'

end Admissible

/-! ### All bindings -/

/-- The candidates cover the bindings: each bound group with a node takes the volumes that ask for its first node. -/
structure Placement.Covers (inventory : List VolumeGroup) (lvmType : LvmType) (bindings : List Binding)
    (cs : List Candidate) : Prop where
  /-- There is one candidate for each binding whose group reports a node, and there are no others. -/
  groups : cs.map (·.group) = (bindings.filter (·.hasNode inventory)).map (·.name)
  /-- No two are on one node. -/
  nodes : (cs.map (·.node)).Nodup
  /-- A binding has a pool just if volumes are thin. -/
  pools : ∀ b ∈ bindings, (b.poolName?.isSome ↔ lvmType = .thin)
  /-- A candidate offers a bound group with its bound pool, on the first node of the group. -/
  offered : ∀ k ∈ cs, ∃ b ∈ bindings, ∃ g, (byName inventory).get? b.name = some g ∧ g.primaryNode = some k.node ∧
    k.decision = ⟨k.node, b.name, g.spec.actualName, b.poolName?⟩
  /-- A volume that asks for the node of a candidate goes where this one offers. -/
  chosen : ∀ k ∈ cs, k.node ≠ "" →
    ∀ required, select cs lvmType .waitForFirstConsumer required (some k.node) = .ok k.decision
  /-- To ask for a node without a name is to ask for none. -/
  nameless : ∀ required, select cs lvmType .waitForFirstConsumer required (some "") = .error .noPreference

namespace Admissible

variable {c : LocalClass} {lvm : LvmSpec} {bindings : List Binding} {inventory : List VolumeGroup}
  {classes : List StorageClass} {p : VolumeParameters} {cs : List Candidate}

/-- A fault among the candidates is one of a size. -/
theorem quantity_of_candidates (h : Admissible c lvm bindings inventory classes) (hty : p.lvmType = lvm.lvmType)
    (hbindings : p.bindings = bindings) {e : Placement.Fault} (he : candidates inventory p = .error e) :
    ∃ cause, e = .quantity cause ∧ ∃ b ∈ bindings, ∃ g, (byName inventory).get? b.name = some g ∧
      capacity lvm.lvmType b g = .error (.quantity cause) := by
  obtain ⟨b, hb, hfault⟩ := exists_of_candidates_eq_error he
  rw [hty] at hfault
  rw [hbindings] at hb
  obtain ⟨g, hg, ⟨cause, hcause, hcap⟩ | ⟨hnone, -⟩ | ⟨node, free, hsome, -⟩⟩ := h.candidate?_cases hb
  · rw [hfault] at hcause
    exact ⟨cause, Except.error.inj hcause, b, hb, g, hg, hcap⟩
  · rw [hfault] at hnone
    cases hnone
  · rw [hfault] at hsome
    cases hsome

/-- Where sizes are well formed, the bindings whose groups report a node are those that candidates come of. -/
theorem yields_eq_hasNode (h : Admissible c lvm bindings inventory classes) (hty : p.lvmType = lvm.lvmType)
    (hbindings : p.bindings = bindings) (hcs : candidates inventory p = .ok cs) {b : Binding} (hb : b ∈ bindings) :
    yields lvm.lvmType (byName inventory) b = b.hasNode inventory := by
  obtain ⟨found, hfound⟩ := exists_candidates_iff.1 ⟨cs, hcs⟩ b (hbindings ▸ hb)
  rw [hty] at hfound
  obtain ⟨g, hg, ⟨cause, hcause, -⟩ | ⟨hnone, hnode⟩ | ⟨node, free, hsome, hnode⟩⟩ := h.candidate?_cases hb
  · rw [hfound] at hcause
    cases hcause
  · have hempty : g.nodeNames = [] := List.head?_eq_none_iff.1 hnode
    simp [yields, hnone, Binding.hasNode, hg, hempty]
  · have hne : g.nodeNames ≠ [] := List.ne_nil_of_mem (List.mem_of_head? hnode)
    simp [yields, hsome, Binding.hasNode, hg, hne]

/-- A candidate offers a bound group with its bound pool. -/
theorem decision_of_mem_candidates (h : Admissible c lvm bindings inventory classes) (hty : p.lvmType = lvm.lvmType)
    (hbindings : p.bindings = bindings) (hcs : candidates inventory p = .ok cs) {k : Candidate} (hk : k ∈ cs) :
    ∃ b ∈ bindings, ∃ g, (byName inventory).get? b.name = some g ∧ g.primaryNode = some k.node ∧
      k.decision = ⟨k.node, b.name, g.spec.actualName, b.poolName?⟩ := by
  obtain ⟨b, hb, hyield⟩ := (mem_candidates_iff hcs).1 hk
  rw [hbindings] at hb
  rw [hty] at hyield
  obtain ⟨g, hg, ⟨cause, hcause, -⟩ | ⟨hnone, -⟩ | ⟨node, free, hsome, hnode⟩⟩ := h.candidate?_cases hb
  · rw [hyield] at hcause
    cases hcause
  · rw [hyield] at hnone
    cases hnone
  · rw [hyield] at hsome
    obtain rfl := Option.some.inj (Except.ok.inj hsome)
    exact ⟨b, hb, g, hg, hnode, rfl⟩

/-- No two candidates are on one node. -/
theorem nodup_node (h : Admissible c lvm bindings inventory classes) (hbindings : p.bindings = bindings)
    (hcs : candidates inventory p = .ok cs) (hsorted : (cs.map (·.group)).Pairwise (· < ·)) :
    (cs.map (·.node)).Nodup := by
  rw [List.Nodup, List.pairwise_map]
  refine (List.pairwise_map.1 hsorted).imp_of_mem fun {k k'} hk hk' hlt hnode => ?_
  obtain ⟨b, hb, hyield⟩ := (mem_candidates_iff hcs).1 hk
  obtain ⟨b', hb', hyield'⟩ := (mem_candidates_iff hcs).1 hk'
  obtain ⟨hgroup, g, hg, hon, -⟩ := get?_of_candidate? hyield
  obtain ⟨hgroup', g', hg', hon', -⟩ := get?_of_candidate? hyield'
  rw [hbindings] at hb hb'
  have hsame := h.eq_of_node hb hb' hg hg' hon (hnode ▸ hon')
  rw [hgroup, hgroup', hsame] at hlt
  exact String.lt_irrefl _ hlt

/-- The candidates cover the bindings, unless there is a fault. -/
theorem covers (h : Admissible c lvm bindings inventory classes)
    (hsorted : bindings.Pairwise (fun b b' => b.name < b'.name)) (hty : p.lvmType = lvm.lvmType)
    (hbindings : p.bindings = bindings) (hcs : candidates inventory p = .ok cs) :
    Covers inventory lvm.lvmType bindings cs := by
  have hgroups : cs.map (·.group) = (bindings.filter (·.hasNode inventory)).map (·.name) := by
    have hyields := map_group_candidates hcs (hbindings ▸ hsorted)
    rw [hyields, hbindings, hty]
    exact congrArg _ (List.filter_congr fun b hb => h.yields_eq_hasNode hty hbindings hcs hb)
  have hnodes : (cs.map (·.node)).Nodup := by
    refine h.nodup_node hbindings hcs ?_
    rw [hgroups, List.pairwise_map]
    exact hsorted.filter _
  refine ⟨hgroups, hnodes, fun b hb => h.isSome_poolName?_iff hb,
    fun k hk => h.decision_of_mem_candidates hty hbindings hcs hk, ?_, fun required => rfl⟩
  intro k hk hname required
  simp [select, chooseNode, hname, bestOn_of_nodup hnodes hk, bind, Except.bind]

end Admissible

/-! ### An admitted class -/

open Materialization

/-- **Volumes of an admitted class find their place.**  The provisioner, which is told of the class by its storage class
only, finds a candidate for every bound group that reports a node, on nodes that differ, and puts a volume that asks for
such a node into the bound group there and the bound pool.  Nothing but a malformed size of a bound group keeps it from
this. -/
theorem placeable_of_admitted {c : LocalClass} {inventory : List VolumeGroup} {bindings : List Binding}
    {classes : List StorageClass} (hresolved : resolveBindings inventory c = .ok bindings)
    (hprint : ∀ b ∈ bindings, b.IsPrintable) (hadmitted : violations c bindings inventory classes = []) :
    ∃ lvm sc ps p, c.spec.lvm = some lvm ∧ buildStorageClass? c bindings = some sc ∧ sc.parameters = some ps ∧
      VolumeParameters.ofMap ps = .ok p ∧
      ((∃ cause, candidates inventory p = .error (.quantity cause) ∧
          ∃ b ∈ bindings, ∃ g, (byName inventory).get? b.name = some g ∧
            capacity lvm.lvmType b g = .error (.quantity cause)) ∨
        ∃ cs, candidates inventory p = .ok cs ∧ Covers inventory lvm.lvmType bindings cs) := by
  obtain ⟨lvm, hlvm, hadmissible⟩ := violations_eq_nil_iff.1 hadmitted
  have hread := VolumeParameters.ofMap_parameters c.spec lvm hadmissible.bound hprint
  refine ⟨lvm, _, _, _, hlvm, buildStorageClass?_eq hlvm bindings, rfl, hread, ?_⟩
  cases hcs : candidates inventory (.ofClass c.spec lvm bindings) with
  | error e =>
    obtain ⟨cause, rfl, hcause⟩ := hadmissible.quantity_of_candidates rfl rfl hcs
    exact .inl ⟨cause, rfl, hcause⟩
  | ok cs => exact .inr ⟨cs, rfl, hadmissible.covers (pairwise_of_resolveBindings hresolved) rfl rfl hcs⟩

namespace Sample

/-- A group with two nodes and a thin pool. -/
def pooledGroup : VolumeGroup :=
  { metadata := { name := some "vg-2" }, spec := ⟨"fast"⟩
    status := some ⟨[⟨"node-2"⟩, ⟨"node-3"⟩], none, none, [⟨"pool", none, none⟩]⟩ }

/-- A class of thin volumes in the pool. -/
def thinClass : LocalClass :=
  { metadata := { name := some "fast" }
    spec := ⟨.delete, .waitForFirstConsumer, some ⟨.thin, [⟨"vg-2", some ⟨"pool"⟩⟩], none, none, none, none⟩, none⟩
    status := none }

/-- A group whose node has no name. -/
def namelessGroup : VolumeGroup := { group with status := some ⟨[⟨""⟩], some ⟨"10Gi"⟩, none, []⟩ }

end Sample

/-- The volumes of the class go to the first node of the group, into the pool. -/
theorem placeable_of_admitted_thin :
    let inventory := [Sample.group, Sample.pooledGroup]
    let bindings : List Binding := [.ofPool "vg-2" "pool"]
    resolveBindings inventory Sample.thinClass = .ok bindings ∧ (∀ b ∈ bindings, b.IsPrintable) ∧
      violations Sample.thinClass bindings inventory [] = [] ∧
      ∃ sc ps p cs, buildStorageClass? Sample.thinClass bindings = some sc ∧ sc.parameters = some ps ∧
        VolumeParameters.ofMap ps = .ok p ∧ candidates inventory p = .ok cs ∧ cs.map (·.group) = ["vg-2"] ∧
        select cs .thin .waitForFirstConsumer 1 (some "node-2") = .ok ⟨"node-2", "vg-2", "fast", some "pool"⟩ := by
  intro inventory bindings
  have hresolved : resolveBindings inventory Sample.thinClass = .ok bindings := rfl
  have hprint : ∀ b ∈ bindings, b.IsPrintable := by
    intro b hb
    rw [List.mem_singleton.1 hb]
    exact ⟨by decide, fun p hp => Option.some.inj hp ▸ by decide⟩
  have hadmitted : violations Sample.thinClass bindings inventory [] = [] := by decide
  obtain ⟨lvm, sc, ps, p, hlvm, hbuilt, hps, hread, hcs⟩ := placeable_of_admitted hresolved hprint hadmitted
  obtain rfl := Option.some.inj hlvm
  have hgroup : (byName inventory).get? "vg-2" = some Sample.pooledGroup := by decide
  refine ⟨hresolved, hprint, hadmitted, sc, ps, p, ?_⟩
  rcases hcs with ⟨cause, -, b, hb, g, hg, hcap⟩ | ⟨cs, hcs, hcovers⟩
  · rw [List.mem_singleton.1 hb] at hg hcap
    obtain rfl := Option.some.inj (hgroup.symm.trans hg)
    cases hcap
  · obtain ⟨k, rfl, -⟩ := List.map_eq_singleton_iff.1 hcovers.groups
    obtain ⟨b, hb, g, hg, hnode, hdecision⟩ := hcovers.offered k (List.mem_singleton_self k)
    rw [List.mem_singleton.1 hb] at hg hdecision
    obtain rfl := Option.some.inj (hgroup.symm.trans hg)
    have hnode : k.node = "node-2" := (Option.some.inj hnode).symm
    have hchosen := hcovers.chosen k (List.mem_singleton_self k) (by rw [hnode]; decide) 1
    rw [hdecision, hnode] at hchosen
    exact ⟨[k], hbuilt, hps, hread, hcs, hcovers.groups, hchosen⟩

/-- A class is admitted with a group whose node has no name, but a volume that asks for this node gets no place. -/
theorem nameless_node_gets_no_volume :
    ∃ sc ps p k, resolveBindings [Sample.namelessGroup] Sample.localClass = .ok [.ofGroup "vg-1"] ∧
      violations Sample.localClass [.ofGroup "vg-1"] [Sample.namelessGroup] [] = [] ∧
      buildStorageClass? Sample.localClass [.ofGroup "vg-1"] = some sc ∧ sc.parameters = some ps ∧
      VolumeParameters.ofMap ps = .ok p ∧ candidates [Sample.namelessGroup] p = .ok [k] ∧
      select [k] p.lvmType .waitForFirstConsumer 1 (some k.node) = .error .noPreference := by
  let bindings : List Binding := [.ofGroup "vg-1"]
  let spec := Sample.localClass.spec
  let lvm : LvmSpec := ⟨.thick, [⟨"vg-1", none⟩], none, none, none, none⟩
  let k : Candidate := ⟨"vg-1", "", "data", none, 10737418240⟩
  have hprint : ∀ b ∈ bindings, b.IsPrintable := by
    intro b hb
    rw [List.mem_singleton.1 hb]
    exact ⟨by decide, fun p hp => by cases hp⟩
  have hread := VolumeParameters.ofMap_parameters spec lvm (List.cons_ne_nil _ _) hprint
  have hcandidates : candidates [Sample.namelessGroup] (.ofClass spec lvm bindings) = .ok [k] := by
    have hcap : candidate? .thick (byName [Sample.namelessGroup]) (.ofGroup "vg-1") = .ok (some k) := rfl
    refine candidates_eq_ok_iff.2 ⟨[some k], ?_, List.mergeSort_singleton k⟩
    rw [VolumeParameters.ofClass, List.map_singleton, List.map_singleton, ← hcap]
  exact ⟨_, _, _, k, rfl, by decide, rfl, rfl, hread, hcandidates, rfl⟩

end LocalVolumes
