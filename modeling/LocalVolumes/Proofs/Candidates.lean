import LocalVolumes.Proofs.Placement

/-!
# LocalVolumes.Proofs.Candidates — the groups that a volume may go to

A bound group that is there and reports a node is a candidate, with the room that is left in it or in the pool of its
binding.  No other group is, and nothing but a missing pool or a malformed size keeps the candidates from being told.
Since groups differ by name, it does not matter in which order they are reported.
-/

namespace LocalVolumes

/-! ### What is left of a size -/

namespace Quantity

/-- A size that can be read; an absent one counts as zero. -/
def Readable (q : Option Quantity) : Prop := ∃ n, bytesOrZero q = .ok n

/-- The bytes of a size of which a part is taken; where more is taken than there is, nothing is left. -/
def IsLeft (size taken : Option Quantity) (free : Nat) : Prop :=
  ∃ n m, bytesOrZero size = .ok n ∧ bytesOrZero taken = .ok m ∧ free = n - m

/-- Why it cannot be told how much is left: the size cannot be read, or else the part of it that is taken cannot. -/
inductive Unreadable (size taken : Option Quantity) : Fault → Prop
  | size {cause : Fault} : bytesOrZero size = .error cause → Unreadable size taken cause
  | taken {n : Nat} {cause : Fault} : bytesOrZero size = .ok n → bytesOrZero taken = .error cause →
      Unreadable size taken cause

/-- What is left of a size, if both can be read. -/
def remaining (size taken : Option Quantity) : Except Fault Nat := do
  let n ← bytesOrZero size
  let m ← bytesOrZero taken
  .ok (n - m)

theorem remaining_eq_ok_iff {size taken : Option Quantity} {free : Nat} :
    remaining size taken = .ok free ↔ IsLeft size taken free := by
  unfold remaining IsLeft
  cases bytesOrZero size <;> cases bytesOrZero taken <;> simp [bind, Except.bind, eq_comm]

theorem remaining_eq_error_iff {size taken : Option Quantity} {cause : Fault} :
    remaining size taken = .error cause ↔ Unreadable size taken cause := by
  constructor
  · intro h
    cases hsize : bytesOrZero size with
    | error e =>
      rw [remaining, hsize] at h
      exact .size (hsize.trans h)
    | ok n =>
      cases htaken : bytesOrZero taken with
      | error e =>
        rw [remaining, hsize, htaken] at h
        exact .taken hsize (htaken.trans h)
      | ok m =>
        rw [remaining, hsize, htaken] at h
        cases h
  · intro h
    cases h with
    | size hsize => rw [remaining, hsize]; rfl
    | taken hsize htaken => rw [remaining, hsize, htaken]; rfl

theorem exists_remaining_iff {size taken : Option Quantity} :
    (∃ free, remaining size taken = .ok free) ↔ Readable size ∧ Readable taken := by
  unfold remaining Readable
  cases bytesOrZero size <;> cases bytesOrZero taken <;> simp [bind, Except.bind]

end Quantity

namespace VolumeGroup

/-- The size that is reported of a group. -/
def size (g : VolumeGroup) : Option Quantity := g.status.bind (·.vgSize)

/-- The part of the size that is allocated. -/
def allocated (g : VolumeGroup) : Option Quantity := g.status.bind (·.allocatedSize)

theorem freeBytes_eq (g : VolumeGroup) : g.freeBytes = Quantity.remaining g.size g.allocated := by
  unfold freeBytes size allocated
  cases g.status <;> rfl

theorem freeBytes_eq_ok_iff {g : VolumeGroup} {free : Nat} :
    g.freeBytes = .ok free ↔ Quantity.IsLeft g.size g.allocated free := by
  rw [freeBytes_eq, Quantity.remaining_eq_ok_iff]

theorem freeBytes_eq_error_iff {g : VolumeGroup} {cause : Quantity.Fault} :
    g.freeBytes = .error cause ↔ Quantity.Unreadable g.size g.allocated cause := by
  rw [freeBytes_eq, Quantity.remaining_eq_error_iff]

theorem poolFreeBytes_eq (g : VolumeGroup) (pool : String) :
    g.poolFreeBytes pool = match g.pool? pool with
      | none => .ok none
      | some p => (Quantity.remaining p.actualSize p.usedSize).map some := by
  unfold poolFreeBytes Quantity.remaining
  cases g.pool? pool with
  | none => rfl
  | some p =>
    dsimp only
    cases Quantity.bytesOrZero p.actualSize <;> cases Quantity.bytesOrZero p.usedSize <;> rfl

end VolumeGroup

namespace Placement

open Admission Quantity

/-! ### The room of a binding -/

/-- What a volume would lie in, by its size and the part of it that is taken: the group, or for thin volumes the first
pool of the name that the binding has, if the group hosts one. -/
def room? (lvmType : LvmType) (b : Binding) (g : VolumeGroup) : Option (Option Quantity × Option Quantity) :=
  match lvmType with
  | .thick => some (g.size, g.allocated)
  | .thin => (b.poolName?.bind g.pool?).map (fun p => (p.actualSize, p.usedSize))

/-- The pool that a volume would lie in. -/
def pool? (lvmType : LvmType) (b : Binding) : Option String :=
  match lvmType with
  | .thick => none
  | .thin => b.poolName?

/-- The room of a binding can be told. -/
structure Measurable (lvmType : LvmType) (b : Binding) (g : VolumeGroup) : Prop where
  poolName : lvmType = .thin → b.poolName?.isSome
  sizes : ∀ size taken, room? lvmType b g = some (size, taken) → Readable size ∧ Readable taken

/-- With the name of a pool where one is needed, it is only the sizes that can be at fault. -/
theorem capacity_eq {lvmType : LvmType} {b : Binding} (h : lvmType = .thin → b.poolName?.isSome) (g : VolumeGroup) :
    capacity lvmType b g = match room? lvmType b g with
      | none => .ok none
      | some (size, taken) =>
        ((remaining size taken).mapError .quantity).map (fun free => some (pool? lvmType b, free)) := by
  cases lvmType with
  | thick => rw [capacity, VolumeGroup.freeBytes_eq]; rfl
  | thin =>
    obtain ⟨pool, hpool⟩ := Option.isSome_iff_exists.1 (h rfl)
    simp only [capacity, room?, pool?, hpool, VolumeGroup.poolFreeBytes_eq, Option.bind_some]
    cases g.pool? pool with
    | none => rfl
    | some p => cases hleft : remaining p.actualSize p.usedSize <;> simp [hleft, Except.mapError, Except.map]

/-- How the room of a binding is measured: it cannot be told, or there is none, or so much of it is left. -/
theorem capacity_cases (lvmType : LvmType) (b : Binding) (g : VolumeGroup) :
    ¬ Measurable lvmType b g ∧ (∃ e, capacity lvmType b g = .error e) ∨
      Measurable lvmType b g ∧ room? lvmType b g = none ∧ capacity lvmType b g = .ok none ∨
        Measurable lvmType b g ∧ ∃ size taken free, room? lvmType b g = some (size, taken) ∧ IsLeft size taken free ∧
          capacity lvmType b g = .ok (some (pool? lvmType b, free)) := by
  by_cases hpool : lvmType = .thin → b.poolName?.isSome
  · have hcap := capacity_eq hpool g
    cases hroom : room? lvmType b g with
    | none => exact .inr (.inl ⟨⟨hpool, by simp [hroom]⟩, rfl, by rw [hcap, hroom]⟩)
    | some sizes =>
      obtain ⟨size, taken⟩ := sizes
      simp only [hroom] at hcap
      cases hleft : remaining size taken with
      | ok free =>
        have hsizes := exists_remaining_iff.1 ⟨free, hleft⟩
        refine .inr (.inr ⟨⟨hpool, fun size' taken' h => ?_⟩, size, taken, free, rfl, remaining_eq_ok_iff.1 hleft, ?_⟩)
        · obtain ⟨rfl, rfl⟩ := Prod.mk.inj (Option.some.inj (hroom.symm.trans h))
          exact hsizes
        · rw [hcap, hleft]
          rfl
      | error cause =>
        refine .inl ⟨fun hm => ?_, .quantity cause, by rw [hcap, hleft]; rfl⟩
        obtain ⟨free, hfree⟩ := exists_remaining_iff.2 (hm.sizes size taken hroom)
        rw [hleft] at hfree
        cases hfree
  · obtain ⟨rfl, hnone⟩ := Classical.not_imp.1 hpool
    refine .inl ⟨fun hm => hpool hm.poolName, .noPoolName b.name, ?_⟩
    rw [Bool.not_eq_true, Option.isSome_eq_false_iff, Option.isNone_iff_eq_none] at hnone
    simp only [capacity, hnone]

/-! ### The candidate of a binding -/

/-- The room of a binding in a group, on the first node of the group. -/
structure Offers (lvmType : LvmType) (g : VolumeGroup) (b : Binding) (c : Candidate) : Prop where
  group : c.group = b.name
  node : g.nodeNames.head? = some c.node
  vgName : c.vgName = g.spec.actualName
  thinPool : c.thinPool = pool? lvmType b
  free : ∃ size taken, room? lvmType b g = some (size, taken) ∧ IsLeft size taken c.freeBytes

/-- Whether there is room for a binding: its group is there, reports a node, and hosts the pool if there must be one. -/
def isServed (inventory : List VolumeGroup) (lvmType : LvmType) (b : Binding) : Bool :=
  inventory.any (fun g => g.name == b.name && !g.nodeNames.isEmpty && (room? lvmType b g).isSome)

section Distinct

variable {inventory : List VolumeGroup} (hdistinct : (inventory.map (·.name)).Nodup)
include hdistinct

/-- What comes of a binding: nothing if no group of its name reports a node, or else what its room comes to. -/
theorem candidate?_cases (lvmType : LvmType) (b : Binding) :
    (∀ g ∈ inventory, g.name = b.name → g.nodeNames = []) ∧ candidate? lvmType (byName inventory) b = .ok none ∨
      ∃ g ∈ inventory, g.name = b.name ∧ ∃ node, g.nodeNames.head? = some node ∧
        candidate? lvmType (byName inventory) b = (capacity lvmType b g).map (·.map (fun room =>
          { group := b.name, node, vgName := g.spec.actualName, thinPool := room.1, freeBytes := room.2 })) := by
  cases hg : (byName inventory).get? b.name with
  | none =>
    refine .inl ⟨fun g hmem hn => ?_, by simp only [candidate?, hg]⟩
    rw [(get?_byName_iff hdistinct).2 ⟨hmem, hn⟩] at hg
    cases hg
  | some g =>
    obtain ⟨hmem, hn⟩ := mem_of_get?_byName hg
    cases hnode : g.nodeNames.head? with
    | none =>
      refine .inl ⟨fun g' hmem' hn' => ?_, by simp only [candidate?, hg, VolumeGroup.primaryNode, hnode]⟩
      obtain rfl := List.inj_on_of_nodup_map hdistinct hmem hmem' (hn.trans hn'.symm)
      exact List.head?_eq_none_iff.1 hnode
    | some node => exact .inr ⟨g, hmem, hn, node, hnode, by simp only [candidate?, hg, VolumeGroup.primaryNode, hnode]⟩

end Distinct

/-- The candidates ascend by their groups, and those of a name are what the bindings of the name offer for which there
is room, one for each, in the order of the bindings. -/
structure Serves (inventory : List VolumeGroup) (p : VolumeParameters) (cs : List Candidate) : Prop where
  ascending : cs.Pairwise (fun c c' => c.group ≤ c'.group)
  offers : ∀ n, List.Forall₂ (fun b c => ∃ g ∈ inventory, g.name = b.name ∧ Offers p.lvmType g b c)
    (p.bindings.filter (fun b => b.name == n && isServed inventory p.lvmType b)) (cs.filter (·.group == n))

end Placement

open Placement

namespace Sample

/-- A group on two nodes, with a pool of which a part is used. -/
def stocked : VolumeGroup :=
  { metadata := { name := some "vg-2" }, spec := ⟨"fast"⟩
    status := some ⟨[⟨"node-2"⟩, ⟨"node-3"⟩], none, none, [⟨"pool", some ⟨"5Gi"⟩, some ⟨"1Gi"⟩⟩]⟩ }

/-- A group that reports no node yet. -/
def bare : VolumeGroup := { metadata := { name := some "vg-3" }, spec := ⟨"slow"⟩, status := none }

end Sample

end LocalVolumes
