import LocalVolumes.StorageClass
import LocalVolumes.VolumeGroup

/-!
# LocalVolumes.Admission — whether a local class can be put into effect

A class is judged with its bindings, the groups that there are and the storage classes that there are.  Every
check is made, so that one report tells all that is wrong.
-/

namespace LocalVolumes

/-- Something that is wrong with a class. -/
inductive Violation
  /-- A storage class of the name belongs to someone else. -/
  | foreignClass (name : String)
  | noLvm (name : String)
  /-- Neither groups nor a selector are given. -/
  | noSource
  /-- No group is bound. -/
  | noGroups
  /-- A selector of thin groups lacks the pool. -/
  | noPoolName
  /-- Some nodes have several of the bound groups. -/
  | sharedNodes (nodes : List (String × List String))
  /-- Some bound groups do not exist. -/
  | missingGroups (names : List String)
  /-- Some bound groups do not have their pool. -/
  | missingPools (names : List String)
  /-- Some groups of a thick class are bound with a pool. -/
  | surplusPools (names : List String)
  deriving DecidableEq, Repr

/-- A node with its groups, each followed by a comma. -/
def Violation.sharedNode (node : String × List String) : String :=
  "|" ++ node.1 ++ ": " ++ String.join (node.2.map (· ++ ","))

/-- The wording of a violation. -/
def Violation.message : Violation → String
  | .foreignClass name =>
    "There already is a storage class with the same name: " ++ name ++
      " but it is not managed by the LocalStorageClass controller"
  | .noLvm name => "Unable to identify a type of LocalStorageClass " ++ name
  | .noSource => "Either lvmVolumeGroups or lvmVolumeGroupSelector must be specified"
  | .noGroups => "No LVMVolumeGroups found matching the specified criteria"
  | .noPoolName => "thinPoolName is required when using lvmVolumeGroupSelector with Thin type"
  | .sharedNodes nodes =>
    "Some LVMVolumeGroups use the same node (|node: LVG names): " ++
      String.join (nodes.map sharedNode)
  | .missingGroups names =>
    "Some of selected LVMVolumeGroups are nonexistent, LVG names: " ++ ",".intercalate names
  | .missingPools names =>
    "Some LVMVolumeGroups use nonexistent thin pools, LVG names: " ++ ",".intercalate names
  | .surplusPools names =>
    "Some LVMVolumeGroups use thin pools though device type is Thick, LVG names: " ++
      ",".intercalate names

namespace Admission

/-- A violation if a condition holds. -/
def violationIf (b : Bool) (v : Violation) : List Violation := if b then [v] else []

/-- A violation that lists something, if there is anything to list. -/
def violationOf {α : Type} (v : List α → Violation) (items : List α) : List Violation :=
  if items.isEmpty then [] else [v items]

/-- The storage class of the name that belongs to someone else. -/
def foreignClass? (c : LocalClass) (classes : List StorageClass) : Option StorageClass :=
  classes.find? (fun sc => sc.metadata.name == some c.name && !sc.isManaged)

/-- For every node of the bound groups the names of those groups, both ascending. -/
def groupsByNode (inventory : List VolumeGroup) (bindings : List Binding) :
    NameMap (NameMap Unit) :=
  let bound := inventory.filter (fun g => (bindings.map (·.name)).contains g.name)
  bound.foldl (fun m g =>
    g.nodeNames.foldl (fun m node =>
      m.insert node (((m.get? node).getD ∅).insert g.name ())) m) ∅

/-- The nodes that have several of the bound groups. -/
def sharedNodes (inventory : List VolumeGroup) (bindings : List Binding) :
    List (String × List String) :=
  ((groupsByNode inventory bindings).toList.map (fun e => (e.1, e.2.keys))).filter
    (fun e => 1 < e.2.length)

/-- The groups by their names; of two with one name the later counts. -/
def byName (inventory : List VolumeGroup) : NameMap VolumeGroup :=
  NameMap.ofList (inventory.map (fun g => (g.name, g)))

/-- Whether the group of a binding has its pool. -/
def hostsPool (groups : NameMap VolumeGroup) (b : Binding) : Bool :=
  match b.poolName?, groups.get? b.name with
  | some pool, some g => g.hasPool pool
  | _, _ => false

/-- What is wrong with the pools of the bindings. -/
def poolViolations (lvmType : LvmType) (groups : NameMap VolumeGroup) (bindings : List Binding) :
    List Violation :=
  match lvmType with
  | .thin => violationOf .missingPools ((bindings.filter (!hostsPool groups ·)).map (·.name))
  | .thick => violationOf .surplusPools ((bindings.filter (·.thin.isSome)).map (·.name))

/-- What is wrong with a class that has volume groups. -/
def lvmViolations (lvm : LvmSpec) (bindings : List Binding) (inventory : List VolumeGroup) :
    List Violation :=
  let groups := byName inventory
  violationIf (lvm.groups.isEmpty && lvm.selector.isNone) .noSource ++
    violationIf bindings.isEmpty .noGroups ++
    violationIf
      (lvm.lvmType == .thin && lvm.selector.isSome && (lvm.thinPoolName.getD "").isEmpty)
      .noPoolName ++
    violationOf .sharedNodes (sharedNodes inventory bindings) ++
    violationOf .missingGroups ((bindings.filter (!groups.contains ·.name)).map (·.name)) ++
    poolViolations lvm.lvmType groups bindings

end Admission

open Admission in
/-- All that is wrong with a class, in the order of the checks. -/
def violations (c : LocalClass) (bindings : List Binding) (inventory : List VolumeGroup)
    (classes : List StorageClass) : List Violation :=
  violationIf (foreignClass? c classes).isSome (.foreignClass c.name) ++
    match c.spec.lvm with
    | none => [.noLvm c.name]
    | some lvm => lvmViolations lvm bindings inventory

/-- The violations as one text, each on a line. -/
def violationReport (vs : List Violation) : String := String.join (vs.map (·.message ++ "\n"))

end LocalVolumes
