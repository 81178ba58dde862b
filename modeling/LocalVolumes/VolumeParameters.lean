import LocalVolumes.LocalClass
import LocalVolumes.Text.Quoted

/-!
# LocalVolumes.VolumeParameters — the parameters of a request for a volume

The provisioner is told by the parameters of the storage class how to make a volume: thick or thin, when it is
bound to a node, and in which of the bound groups.
-/

namespace LocalVolumes

/-- How to make a volume. -/
structure VolumeParameters where
  lvmType : LvmType
  bindingMode : BindingMode
  bindings : List Binding
  /-- Only thick volumes are contiguous. -/
  contiguous : Bool
  deriving DecidableEq, Repr

namespace VolumeParameters

/-- Why parameters do not tell how to make a volume. -/
inductive Fault
  | unsupportedKind
  | unknownType (word : String)
  | unknownMode (word : String)
  | noGroups
  | undecodable (text : String)
  deriving DecidableEq, Repr

/-- The wording of an unknown type. -/
def unknownTypeMessage (word : String) : String := "unknown LVM type: " ++ word

/-- The wording of an unknown mode. -/
def unknownModeMessage (word : String) : String := "unknown volume binding mode: " ++ word

/-- The wording of a text that holds no bindings.  What is wrong with it is up to the reader of the text; all that is
taken for granted here is that its words depend on nothing but the text, so they show that. -/
def undecodableMessage (text : String) : String := "not a list of bindings: " ++ Text.quoted text

/-- The wording of a cause. -/
def Fault.message : Fault → String
  | .unsupportedKind => "Unsupported Storage Class type"
  | .unknownType word => unknownTypeMessage word
  | .unknownMode word => unknownModeMessage word
  | .noGroups => "no LVMVolumeGroups specified in a storage class's parameters"
  | .undecodable text => "Unable to decode volume group bindings: " ++ undecodableMessage text

/-- Reads parameters; nothing else is looked at. -/
def ofMap (parameters : NameMap String) : Except Fault VolumeParameters :=
  let get (key : String) : String := (parameters.get? key).getD ""
  if get Marks.kindKey ≠ Marks.kindValue then .error .unsupportedKind
  else
    match LvmType.ofWord? (get Marks.lvmTypeKey) with
    | none => .error (.unknownType (get Marks.lvmTypeKey))
    | some lvmType =>
      match BindingMode.ofWord? (get Marks.bindingModeKey) with
      | none => .error (.unknownMode (get Marks.bindingModeKey))
      | some bindingMode =>
        match Binding.decode? (get Marks.volumeGroupsKey) with
        | none => .error (.undecodable (get Marks.volumeGroupsKey))
        | some [] => .error .noGroups
        | some (b :: bs) =>
          .ok { lvmType, bindingMode, bindings := b :: bs
                contiguous := lvmType == .thick && get Marks.contiguousKey == "true" }

end VolumeParameters

end LocalVolumes
