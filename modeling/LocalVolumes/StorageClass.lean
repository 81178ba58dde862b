import LocalVolumes.Marks
import LocalVolumes.Metadata

/-!
# LocalVolumes.StorageClass — the storage classes of the platform

A storage class names its provisioner and carries parameters for it.  Those whose provisioner is the one of
this library are managed here; all others belong to someone else.
-/

namespace LocalVolumes

/-- A condition on the label of nodes. -/
structure TopologyLabel where
  key : String
  values : List String
  deriving DecidableEq, Repr

/-- Conditions on the labels of nodes. -/
structure TopologyTerm where
  labels : Option (List TopologyLabel)
  deriving DecidableEq, Repr

/-- A storage class. -/
structure StorageClass where
  metadata : Metadata
  provisioner : String
  parameters : Option (NameMap String) := none
  reclaimPolicy : Option String := none
  bindingMode : Option String := none
  allowVolumeExpansion : Option Bool := none
  mountOptions : Option (List String) := none
  allowedTopologies : Option (List TopologyTerm) := none
  deriving DecidableEq

instance : Resource StorageClass := ⟨StorageClass.metadata, fun c m => { c with metadata := m }⟩

namespace StorageClass

/-- Whether the class is managed here. -/
def isManaged (c : StorageClass) : Bool := c.provisioner == Marks.provisioner

/-- The value of a parameter, empty where it is absent. -/
def parameter (c : StorageClass) (key : String) : String :=
  (c.parameters.bind (·.get? key)).getD ""

end StorageClass

/-! ### JSON -/

open Json (Draft)

/-- A condition as JSON. -/
def TopologyLabel.toJson (l : TopologyLabel) : Json :=
  .object [("key", .string l.key), ("values", Json.strings l.values)]

/-- The condition of a draft. -/
def TopologyLabel.ofDraft? (d : Draft) : Option TopologyLabel := do
  let fields ← d.lenientRecord? ["key", "values"]
  return {
    key := (← Draft.last? fields "key" Draft.text?).getD ""
    values := (← Draft.last? fields "values" (Draft.items? Draft.text?)).getD [] }

/-- Conditions as JSON. -/
def TopologyTerm.toJson (t : TopologyTerm) : Json :=
  Json.objectOf [("matchLabelExpressions", t.labels.map (fun ls => .array (ls.map (·.toJson))))]

/-- The conditions of a draft. -/
def TopologyTerm.ofDraft? (d : Draft) : Option TopologyTerm := do
  let fields ← d.lenientRecord? ["matchLabelExpressions"]
  return ⟨← Draft.last? fields "matchLabelExpressions" (Draft.items? TopologyLabel.ofDraft?)⟩

namespace StorageClass

/-- The version of the format. -/
def apiVersion : String := "storage.k8s.io/v1"

/-- The kind of the objects. -/
def kind : String := "StorageClass"

/-- A storage class as JSON. -/
def toJson (c : StorageClass) : Json :=
  Json.objectOf [
    ("apiVersion", some (.string apiVersion)),
    ("kind", some (.string kind)),
    ("allowVolumeExpansion", c.allowVolumeExpansion.map .bool),
    ("allowedTopologies", c.allowedTopologies.map (fun ts => .array (ts.map (·.toJson)))),
    ("metadata", some c.metadata.toJson),
    ("mountOptions", c.mountOptions.map Json.strings),
    ("parameters", c.parameters.map NameMap.toJson),
    ("provisioner", some (.string c.provisioner)),
    ("reclaimPolicy", c.reclaimPolicy.map .string),
    ("volumeBindingMode", c.bindingMode.map .string)]

/-- The names of the parts. -/
def parts : List String :=
  ["apiVersion", "kind", "allowVolumeExpansion", "allowedTopologies", "metadata", "mountOptions",
    "parameters", "provisioner", "reclaimPolicy", "volumeBindingMode"]

/-- Whether all fields of a name hold the given text. -/
def allAre (fields : List (String × Draft)) (name text : String) : Bool :=
  (fields.filter (·.1 == name)).all (·.2.text? == some text)

/-- The storage class of a draft; its version and kind, if given, are those of storage classes. -/
def ofDraft? (d : Draft) : Option StorageClass := do
  let fields ← d.lenientRecord? parts
  if !allAre fields "apiVersion" apiVersion || !allAre fields "kind" kind then none
  else
    return {
      metadata := (← Draft.last? fields "metadata" Metadata.ofDraft?).getD {}
      provisioner := (← Draft.last? fields "provisioner" Draft.text?).getD ""
      parameters := ← Draft.last? fields "parameters" Draft.textMap?
      reclaimPolicy := ← Draft.last? fields "reclaimPolicy" Draft.text?
      bindingMode := ← Draft.last? fields "volumeBindingMode" Draft.text?
      allowVolumeExpansion := ← Draft.last? fields "allowVolumeExpansion" Draft.bool?
      mountOptions := ← Draft.last? fields "mountOptions" (Draft.items? Draft.text?)
      allowedTopologies :=
        ← Draft.last? fields "allowedTopologies" (Draft.items? TopologyTerm.ofDraft?) }

end StorageClass

end LocalVolumes
