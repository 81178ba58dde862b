import LocalVolumes.LocalClass
import LocalVolumes.Quantity

/-!
# LocalVolumes.VolumeGroup — the inventory of volume groups

A volume group lies on a node, has a size of which a part is allocated, and may hold thin pools.  The nodes
report all this; nothing here changes it.
-/

namespace LocalVolumes

/-- A node of a volume group. -/
structure GroupNode where
  name : String
  deriving DecidableEq, Repr

/-- A thin pool of a volume group. -/
structure ThinPool where
  name : String
  actualSize : Option Quantity
  usedSize : Option Quantity
  deriving DecidableEq, Repr

/-- What the nodes report. -/
structure GroupStatus where
  nodes : List GroupNode
  vgSize : Option Quantity
  allocatedSize : Option Quantity
  thinPools : List ThinPool
  deriving DecidableEq, Repr

/-- What is declared: the name that the node knows the group by. -/
structure GroupSpec where
  actualName : String
  deriving DecidableEq, Repr

/-- A volume group. -/
structure VolumeGroup where
  metadata : Metadata
  spec : GroupSpec
  status : Option GroupStatus
  deriving DecidableEq

instance : Resource VolumeGroup := ⟨VolumeGroup.metadata, fun g m => { g with metadata := m }⟩

namespace VolumeGroup

/-- The name, or `unknown`. -/
def name (g : VolumeGroup) : String := g.metadata.nameOrUnknown

/-- The labels; none where they are absent. -/
def labels (g : VolumeGroup) : NameMap String := g.metadata.labels.getD ∅

/-- The names of the nodes. -/
def nodeNames (g : VolumeGroup) : List String := ((g.status.map (·.nodes)).getD []).map (·.name)

/-- The node of the group: the first one. -/
def primaryNode (g : VolumeGroup) : Option String := g.nodeNames.head?

/-- The thin pools. -/
def pools (g : VolumeGroup) : List ThinPool := (g.status.map (·.thinPools)).getD []

/-- The pool of a name; of two the first. -/
def pool? (g : VolumeGroup) (pool : String) : Option ThinPool := g.pools.find? (·.name == pool)

/-- Whether the group has a pool of that name. -/
def hasPool (g : VolumeGroup) (pool : String) : Bool := (g.pool? pool).isSome

/-- The bytes of the group that are not allocated. -/
def freeBytes (g : VolumeGroup) : Except Quantity.Fault Nat :=
  match g.status with
  | none => .ok 0
  | some s => do
    let size ← Quantity.bytesOrZero s.vgSize
    let allocated ← Quantity.bytesOrZero s.allocatedSize
    .ok (size - allocated)

/-- The bytes of a pool that are not used; none if there is no such pool. -/
def poolFreeBytes (g : VolumeGroup) (pool : String) : Except Quantity.Fault (Option Nat) :=
  match g.pool? pool with
  | none => .ok none
  | some p => do
    let actual ← Quantity.bytesOrZero p.actualSize
    let used ← Quantity.bytesOrZero p.usedSize
    .ok (some (actual - used))

end VolumeGroup

/-! ### JSON -/

open Json (Draft)

/-- A size as JSON. -/
def Quantity.toJson (q : Quantity) : Json := .string q.text

/-- The size of a draft, whose text need not be well formed. -/
def Quantity.ofDraft? (d : Draft) : Option Quantity := d.text?.map Quantity.mk

/-- A node as JSON. -/
def GroupNode.toJson (n : GroupNode) : Json := .object [("name", .string n.name)]

/-- The node of a draft. -/
def GroupNode.ofDraft? (d : Draft) : Option GroupNode := do
  let fields ← d.record? ["name"]
  return ⟨← (← fields.lookup "name").text?⟩

/-- A pool as JSON. -/
def ThinPool.toJson (p : ThinPool) : Json :=
  Json.objectOf [("name", some (.string p.name)), ("actualSize", p.actualSize.map Quantity.toJson),
    ("usedSize", p.usedSize.map Quantity.toJson)]

/-- The pool of a draft. -/
def ThinPool.ofDraft? (d : Draft) : Option ThinPool := do
  let fields ← d.record? ["name", "actualSize", "usedSize"]
  return {
    name := ← (← fields.lookup "name").text?
    actualSize := ← Draft.optional? Quantity.ofDraft? (fields.lookup "actualSize")
    usedSize := ← Draft.optional? Quantity.ofDraft? (fields.lookup "usedSize") }

/-- A report as JSON. -/
def GroupStatus.toJson (s : GroupStatus) : Json :=
  Json.objectOf [
    ("nodes", some (.array (s.nodes.map GroupNode.toJson))),
    ("vgSize", s.vgSize.map Quantity.toJson),
    ("allocatedSize", s.allocatedSize.map Quantity.toJson),
    ("thinPools", some (.array (s.thinPools.map ThinPool.toJson)))]

/-- The report of a draft. -/
def GroupStatus.ofDraft? (d : Draft) : Option GroupStatus := do
  let fields ← d.record? ["nodes", "vgSize", "allocatedSize", "thinPools"]
  return {
    nodes := ← Draft.withDefault? [] (Draft.items? GroupNode.ofDraft?) (fields.lookup "nodes")
    vgSize := ← Draft.optional? Quantity.ofDraft? (fields.lookup "vgSize")
    allocatedSize := ← Draft.optional? Quantity.ofDraft? (fields.lookup "allocatedSize")
    thinPools := ← Draft.withDefault? [] (Draft.items? ThinPool.ofDraft?) (fields.lookup "thinPools") }

/-- What is declared, as JSON. -/
def GroupSpec.toJson (s : GroupSpec) : Json :=
  .object [("actualVGNameOnTheNode", .string s.actualName)]

/-- What a draft declares. -/
def GroupSpec.ofDraft? (d : Draft) : Option GroupSpec := do
  let fields ← d.record? ["actualVGNameOnTheNode"]
  return ⟨← Draft.withDefault? "" Draft.text? (fields.lookup "actualVGNameOnTheNode")⟩

namespace VolumeGroup

/-- The kind of the objects. -/
def kind : String := "LVMVolumeGroup"

/-- A volume group as JSON. -/
def toJson (g : VolumeGroup) : Json :=
  Json.objectOf [
    ("apiVersion", some (.string LocalClass.apiVersion)),
    ("kind", some (.string kind)),
    ("metadata", some g.metadata.toJson),
    ("spec", some g.spec.toJson),
    ("status", g.status.map GroupStatus.toJson)]

/-- The volume group of a draft. -/
def ofDraft? (d : Draft) : Option VolumeGroup := do
  let parts ← Declared.ofDraft? GroupSpec.ofDraft? GroupStatus.ofDraft? d
  return ⟨parts.metadata, parts.spec, parts.status⟩

end VolumeGroup

end LocalVolumes
