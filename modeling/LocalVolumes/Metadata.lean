import LocalVolumes.Json.Record
import LocalVolumes.Timestamp

/-!
# LocalVolumes.Metadata — what every object of a cluster carries

The name of an object, its labels and annotations, the version that a write must know, and the finalizers that
hold it back from being removed once its deletion is asked for.
-/

namespace LocalVolumes

/-- The object to which another one belongs. -/
structure OwnerReference where
  apiVersion : String
  kind : String
  name : String
  uid : String
  blockOwnerDeletion : Option Bool
  controller : Option Bool
  deriving DecidableEq, Repr

/-- Which fields of an object somebody has set last. -/
structure FieldsManager where
  manager : Option String
  operation : Option String
  apiVersion : Option String
  time : Option Timestamp
  fieldsType : Option String
  fields : Option Json
  subresource : Option String
  deriving DecidableEq

/-- The metadata of an object.  Absent parts are told apart from empty ones. -/
structure Metadata where
  name : Option String := none
  generateName : Option String := none
  namespaceName : Option String := none
  labels : Option (NameMap String) := none
  annotations : Option (NameMap String) := none
  finalizers : Option (List String) := none
  ownerReferences : Option (List OwnerReference) := none
  managedFields : Option (List FieldsManager) := none
  uid : Option String := none
  generation : Option Int := none
  resourceVersion : Option String := none
  selfLink : Option String := none
  creationTimestamp : Option Timestamp := none
  deletionTimestamp : Option Timestamp := none
  deletionGracePeriodSeconds : Option Int := none
  deriving DecidableEq

namespace Metadata

/-- The name, or `unknown` for an object without one. -/
def nameOrUnknown (m : Metadata) : String := m.name.getD "unknown"

/-- Whether the deletion of the object was asked for. -/
def isBeingDeleted (m : Metadata) : Bool := m.deletionTimestamp.isSome

/-- The finalizers; none where they are absent. -/
def finalizerList (m : Metadata) : List String := m.finalizers.getD []

/-- Whether a finalizer is present. -/
def hasFinalizer (f : String) (m : Metadata) : Bool := m.finalizerList.contains f

/-- Puts a finalizer after the others. -/
def addFinalizer (f : String) (m : Metadata) : Metadata :=
  { m with finalizers := some (m.finalizerList ++ [f]) }

/-- Takes all of the given finalizers away. -/
def removeFinalizers (fs : List String) (m : Metadata) : Metadata :=
  { m with finalizers := m.finalizers.map (·.filter (fun f => !fs.contains f)) }

/-- Whether one of the given finalizers is present. -/
def hasAnyFinalizer (fs : List String) (m : Metadata) : Bool := m.finalizerList.any fs.contains

end Metadata

/-! ### JSON -/

open Json (Draft)

/-- A map of texts as a JSON object. -/
def NameMap.toJson (m : NameMap String) : Json := .object (m.toList.map (fun e => (e.1, .string e.2)))

/-- A point in time as JSON. -/
def Timestamp.toJson (t : Timestamp) : Json := .string t.text

/-- The point in time of a draft. -/
def Timestamp.ofDraft? (d : Draft) : Option Timestamp := d.text?.bind ofText?

namespace OwnerReference

/-- A reference as JSON. -/
def toJson (r : OwnerReference) : Json :=
  Json.objectOf [
    ("apiVersion", some (.string r.apiVersion)),
    ("blockOwnerDeletion", r.blockOwnerDeletion.map .bool),
    ("controller", r.controller.map .bool),
    ("kind", some (.string r.kind)),
    ("name", some (.string r.name)),
    ("uid", some (.string r.uid))]

/-- The reference of a draft; a missing text is empty. -/
def ofDraft? (d : Draft) : Option OwnerReference := do
  let fields ← d.lenientRecord?
    ["apiVersion", "blockOwnerDeletion", "controller", "kind", "name", "uid"]
  return {
    apiVersion := (← Draft.last? fields "apiVersion" Draft.text?).getD ""
    kind := (← Draft.last? fields "kind" Draft.text?).getD ""
    name := (← Draft.last? fields "name" Draft.text?).getD ""
    uid := (← Draft.last? fields "uid" Draft.text?).getD ""
    blockOwnerDeletion := ← Draft.last? fields "blockOwnerDeletion" Draft.bool?
    controller := ← Draft.last? fields "controller" Draft.bool? }

end OwnerReference

namespace FieldsManager

/-- An entry as JSON, absent parts left out. -/
def toJson (m : FieldsManager) : Json :=
  Json.objectOf [
    ("apiVersion", m.apiVersion.map .string),
    ("fieldsType", m.fieldsType.map .string),
    ("fieldsV1", m.fields),
    ("manager", m.manager.map .string),
    ("operation", m.operation.map .string),
    ("subresource", m.subresource.map .string),
    ("time", m.time.map Timestamp.toJson)]

/-- The entry of a draft. -/
def ofDraft? (d : Draft) : Option FieldsManager := do
  let fields ← d.lenientRecord?
    ["apiVersion", "fieldsType", "fieldsV1", "manager", "operation", "subresource", "time"]
  return {
    manager := ← Draft.last? fields "manager" Draft.text?
    operation := ← Draft.last? fields "operation" Draft.text?
    apiVersion := ← Draft.last? fields "apiVersion" Draft.text?
    time := ← Draft.last? fields "time" Timestamp.ofDraft?
    fieldsType := ← Draft.last? fields "fieldsType" Draft.text?
    fields := ← Draft.last? fields "fieldsV1" Draft.toJson?
    subresource := ← Draft.last? fields "subresource" Draft.text? }

end FieldsManager

namespace Metadata

/-- The metadata as JSON, absent parts left out. -/
def toJson (m : Metadata) : Json :=
  Json.objectOf [
    ("annotations", m.annotations.map NameMap.toJson),
    ("creationTimestamp", m.creationTimestamp.map Timestamp.toJson),
    ("deletionGracePeriodSeconds", m.deletionGracePeriodSeconds.map .integer),
    ("deletionTimestamp", m.deletionTimestamp.map Timestamp.toJson),
    ("finalizers", m.finalizers.map Json.strings),
    ("generateName", m.generateName.map .string),
    ("generation", m.generation.map .integer),
    ("labels", m.labels.map NameMap.toJson),
    ("managedFields", m.managedFields.map (fun fs => .array (fs.map (·.toJson)))),
    ("name", m.name.map .string),
    ("namespace", m.namespaceName.map .string),
    ("ownerReferences", m.ownerReferences.map (fun rs => .array (rs.map (·.toJson)))),
    ("resourceVersion", m.resourceVersion.map .string),
    ("selfLink", m.selfLink.map .string),
    ("uid", m.uid.map .string)]

/-- The names of the parts. -/
def parts : List String :=
  ["annotations", "creationTimestamp", "deletionGracePeriodSeconds", "deletionTimestamp", "finalizers",
    "generateName", "generation", "labels", "managedFields", "name", "namespace", "ownerReferences",
    "resourceVersion", "selfLink", "uid"]

/-- The metadata of a draft. -/
def ofDraft? (d : Draft) : Option Metadata := do
  let fields ← d.lenientRecord? parts
  return {
    name := ← Draft.last? fields "name" Draft.text?
    generateName := ← Draft.last? fields "generateName" Draft.text?
    namespaceName := ← Draft.last? fields "namespace" Draft.text?
    labels := ← Draft.last? fields "labels" Draft.textMap?
    annotations := ← Draft.last? fields "annotations" Draft.textMap?
    finalizers := ← Draft.last? fields "finalizers" (Draft.items? Draft.text?)
    ownerReferences := ← Draft.last? fields "ownerReferences" (Draft.items? OwnerReference.ofDraft?)
    managedFields := ← Draft.last? fields "managedFields" (Draft.items? FieldsManager.ofDraft?)
    uid := ← Draft.last? fields "uid" Draft.text?
    generation := ← Draft.last? fields "generation" Draft.int64?
    resourceVersion := ← Draft.last? fields "resourceVersion" Draft.text?
    selfLink := ← Draft.last? fields "selfLink" Draft.text?
    creationTimestamp := ← Draft.last? fields "creationTimestamp" Timestamp.ofDraft?
    deletionTimestamp := ← Draft.last? fields "deletionTimestamp" Timestamp.ofDraft?
    deletionGracePeriodSeconds := ← Draft.last? fields "deletionGracePeriodSeconds" Draft.int64? }

end Metadata

/-! ### Objects of a cluster -/

/-- An object of a cluster: it has metadata, which can be changed. -/
class Resource (α : Type) where
  metadata : α → Metadata
  withMetadata : α → Metadata → α

/-- The name under which an object is stored: its name, or what a name is to be made of. -/
def Resource.key {α : Type} [Resource α] (a : α) : String :=
  ((metadata a).name.orElse (fun _ => (metadata a).generateName)).getD ""

/-- The name of an object, or `unknown`. -/
def Resource.name {α : Type} [Resource α] (a : α) : String := (metadata a).nameOrUnknown

/-- The parts of an object that is written as its metadata, what is declared in it, and what is reported of it. -/
structure Declared (σ τ : Type) where
  metadata : Metadata
  spec : σ
  status : Option τ

/-- The parts of the object of a draft.  An array holds all three. -/
def Declared.ofDraft? {σ τ : Type} (readSpec : Draft → Option σ) (readStatus : Draft → Option τ) (d : Draft) :
    Option (Declared σ τ) := do
  let fields ← d.wholeRecord? ["metadata", "spec", "status"]
  return {
    metadata := ← Metadata.ofDraft? (← fields.lookup "metadata")
    spec := ← readSpec (← fields.lookup "spec")
    status := ← Draft.optional? readStatus (fields.lookup "status") }

end LocalVolumes
