import LocalVolumes.VolumeGroup
import LocalVolumes.VolumeParameters

/-!
# LocalVolumes.Placement — the node and the group of a new volume

The candidates for a volume are the bound groups that are there and report a node.  A volume that is bound at
once goes to the node whose best group has the most free space; otherwise its node is given.  On the node it goes
to the group with the most free space.  Ties go to the least name.
-/

namespace LocalVolumes

/-- A group that a volume may go to. -/
structure Candidate where
  group : String
  node : String
  /-- The group as its node knows it. -/
  vgName : String
  thinPool : Option String
  freeBytes : Nat
  deriving DecidableEq, Repr

/-- Where a volume goes. -/
structure Decision where
  node : String
  group : String
  vgName : String
  thinPool : Option String
  deriving DecidableEq, Repr

/-- The place that a candidate offers. -/
def Candidate.decision (c : Candidate) : Decision := ⟨c.node, c.group, c.vgName, c.thinPool⟩

namespace Placement

/-- Why there are no candidates, or no place among them. -/
inductive Fault
  | quantity (cause : Quantity.Fault)
  /-- A thin volume has no pool in a group. -/
  | noPoolName (group : String)
  | noCandidate
  | noPreference
  | noGroupOn (node : String)
  | insufficient (requested available : Nat)
  deriving DecidableEq, Repr

/-! ### Candidates -/

/-- The pool and the free bytes of a binding whose group is there; none if the pool is not there. -/
def capacity (lvmType : LvmType) (b : Binding) (g : VolumeGroup) :
    Except Fault (Option (Option String × Nat)) :=
  match lvmType with
  | .thick => (g.freeBytes.mapError .quantity).map (fun free => some (none, free))
  | .thin =>
    match b.poolName? with
    | none => .error (.noPoolName b.name)
    | some pool =>
      (g.poolFreeBytes pool).mapError .quantity |>.map (·.map (fun free => (some pool, free)))

/-- The candidate of a binding, if its group is there with a node and what else it needs. -/
def candidate? (lvmType : LvmType) (groups : NameMap VolumeGroup) (b : Binding) :
    Except Fault (Option Candidate) :=
  match groups.get? b.name with
  | none => .ok none
  | some g =>
    match g.primaryNode with
    | none => .ok none
    | some node =>
      (capacity lvmType b g).map (·.map (fun (thinPool, freeBytes) =>
        { group := b.name, node, vgName := g.spec.actualName, thinPool, freeBytes }))

/-- The candidates for a volume, ascending by group. -/
def candidates (inventory : List VolumeGroup) (p : VolumeParameters) :
    Except Fault (List Candidate) := do
  let groups := NameMap.ofList (inventory.map (fun g => (g.name, g)))
  let found ← p.bindings.mapM (candidate? p.lvmType groups)
  .ok ((found.filterMap id).mergeSort (fun a b => a.group ≤ b.group))

/-! ### Selection -/

/-- The most free space of a group on every node. -/
def freeByNode (cs : List Candidate) : NameMap Nat :=
  cs.foldl (fun m c => m.insert c.node (max ((m.get? c.node).getD 0) c.freeBytes)) ∅

/-- The node with the most free space, and that space; of equal ones the least. -/
def bestNode? (cs : List Candidate) : Option (String × Nat) :=
  (freeByNode cs).toList.foldl (fun best e =>
    match best with
    | none => some e
    | some b => if b.2 < e.2 then some e else best) none

/-- The better one of two candidates on a node: more free space, then the lesser name. -/
def better (best : Option Candidate) (c : Candidate) : Option Candidate :=
  match best with
  | none => some c
  | some b =>
    if c.freeBytes < b.freeBytes then best
    else if b.freeBytes = c.freeBytes ∧ b.group ≤ c.group then best
    else some c

/-- The best candidate on a node. -/
def bestOn (cs : List Candidate) (node : String) : Except Fault Candidate :=
  match (cs.filter (·.node == node)).foldl better none with
  | some c => .ok c
  | none => .error (.noGroupOn node)

/-- The node of a volume. -/
def chooseNode (cs : List Candidate) (lvmType : LvmType) (mode : BindingMode) (required : Nat)
    (preferred : Option String) : Except Fault String :=
  match mode with
  | .immediate =>
    match bestNode? cs with
    | none => .error .noCandidate
    | some (node, free) =>
      if lvmType = .thick ∧ free < required then .error (.insufficient required free) else .ok node
  | .waitForFirstConsumer =>
    match preferred with
    | none => .error .noPreference
    | some node => if node = "" then .error .noPreference else .ok node

/-- The place of a volume of the given size. -/
def select (cs : List Candidate) (lvmType : LvmType) (mode : BindingMode) (required : Nat)
    (preferred : Option String) : Except Fault Decision := do
  let node ← chooseNode cs lvmType mode required preferred
  let c ← bestOn cs node
  .ok c.decision

end Placement

end LocalVolumes
