import LocalVolumes.VolumeGroup

/-!
# LocalVolumes.Resolution — the volume groups of a local class

The groups that a class lists and those that its selector chooses become one list of bindings, ascending by
group and without repetition.  Of two entries for one group the later counts, and a listed group keeps its entry
when the selector chooses it too.
-/

namespace LocalVolumes

namespace Resolution

/-- Why the groups of a class cannot be told. -/
inductive Fault
  | noLvm
  | selector (cause : Selector.Fault)
  | emptySelector
  deriving DecidableEq, Repr

/-- The wording of a cause. -/
def Fault.message : Fault → String
  | .noLvm => "LVM spec is nil"
  | .selector cause => "unable to parse lvmVolumeGroupSelector: " ++ cause.message
  | .emptySelector =>
    "empty lvmVolumeGroupSelector would match all LVGs; " ++
      "specify matchLabels or matchExpressions to select specific LVGs"

/-- The selector of a class, if it has one; it must have conditions. -/
def compile (lvm : LvmSpec) : Except Fault (Option Selector) :=
  match lvm.selector with
  | none => .ok none
  | some s =>
    match Selector.compile s with
    | .error cause => .error (.selector cause)
    | .ok s => if s.isEmpty then .error .emptySelector else .ok (some s)

/-- The pool of groups that are chosen by their labels: the one of the class, if volumes are thin. -/
def defaultPool (lvm : LvmSpec) : Option ThinPoolRef :=
  match lvm.lvmType, lvm.thinPoolName with
  | .thin, some pool => if pool = "" then none else some ⟨pool⟩
  | _, _ => none

/-- The bindings of the listed groups. -/
def listed (lvm : LvmSpec) : NameMap Binding :=
  NameMap.ofList (lvm.groups.map (fun g => (g.name, Binding.ofRef g)))

/-- The bindings with those of the groups that a selector chooses. -/
def select (pool : Option ThinPoolRef) (s : Selector) (inventory : List VolumeGroup)
    (bindings : NameMap Binding) : NameMap Binding :=
  (inventory.filter (fun g => s.matchesLabels g.labels)).foldl
    (fun m g => m.insertIfNew g.name ⟨g.name, pool⟩) bindings

end Resolution

open Resolution in
/-- The bindings of a class, given the groups that there are. -/
def resolveBindings (inventory : List VolumeGroup) (c : LocalClass) :
    Except Resolution.Fault (List Binding) :=
  match c.spec.lvm with
  | none => .error .noLvm
  | some lvm =>
    match compile lvm with
    | .error cause => .error cause
    | .ok none => .ok (listed lvm).values
    | .ok (some s) => .ok (select (defaultPool lvm) s inventory (listed lvm)).values

end LocalVolumes
