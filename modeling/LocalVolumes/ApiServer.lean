import LocalVolumes.Cluster
import LocalVolumes.Exchange
import LocalVolumes.Exchange.Target

/-!
# LocalVolumes.ApiServer — a cluster that is served over HTTP

Every request is a call on the cluster.  The reply holds what the call answers; if it fails, it tells of the cause.
-/

namespace LocalVolumes.ApiServer

/-! ### Calls -/

/-- The object in the body of a request. -/
def object? {α : Type} (read : Json.Draft → Option α) (r : Exchange.Request) : Option α :=
  r.body.bind (fun v => read (.ofJson v))

/-- The call of a request on storage classes. -/
def storageClassCall? (r : Exchange.Request) : Option String → Option Call
  | none => match r.method with
    | .get => some .listStorageClasses
    | .post => (object? StorageClass.ofDraft? r).map .createStorageClass
    | _ => none
  | some name => match r.method with
    | .get => some (.getStorageClass name)
    | .put => (object? StorageClass.ofDraft? r).map .replaceStorageClass
    | .delete => some (.deleteStorageClass name)
    | .post => none

/-- The call of a request on local classes. -/
def localClassCall? (r : Exchange.Request) : Option String → Option Call
  | none => match r.method with
    | .get => some .listLocalClasses
    | _ => none
  | some name => match r.method with
    | .get => some (.getLocalClass name)
    | .put => (object? LocalClass.ofDraft? r).map .replaceLocalClass
    | _ => none

/-- The call of a request on volume groups. -/
def volumeGroupCall? (r : Exchange.Request) : Option String → Option Call
  | none => match r.method with
    | .get => some .listVolumeGroups
    | _ => none
  | some name => match r.method with
    | .get => some (.getVolumeGroup name)
    | _ => none

/-- The call of a request on logical volumes. -/
def volumeCall? (r : Exchange.Request) : Option String → Option Call
  | none => match r.method with
    | .post => (object? LogicalVolume.ofDraft? r).map .createVolume
    | _ => none
  | some name => match r.method with
    | .get => some (.getVolume name)
    | .put => (object? LogicalVolume.ofDraft? r).map .replaceVolume
    | .delete => some (.deleteVolume name)
    | .post => none

/-- The call of a request on the objects of a collection, or on the object of a name. -/
def objectCall? (r : Exchange.Request) : Collection → Option String → Option Call
  | .storageClasses => storageClassCall? r
  | .localClasses => localClassCall? r
  | .volumeGroups => volumeGroupCall? r
  | .volumes => volumeCall? r

/-- The call of a request. -/
def call? (r : Exchange.Request) : Target → Option Call
  | .collection c => objectCall? r c none
  | .object c name => objectCall? r c (some name)
  | .status .localClasses _ =>
    if r.method = .put then (object? LocalClass.ofDraft? r).map .replaceLocalClassStatus else none
  | .status _ _ => none

/-! ### Replies -/

/-- A reply that tells of an error. -/
def refusal (e : ErrorResponse) : Exchange.Reply :=
  .response e.code (Json.object [("status", .string e.status), ("message", .string e.message),
    ("reason", .string e.reason), ("code", .nat e.code)]).render

/-- The error that stands for a cause. -/
def errorOf (e : Fault) : ErrorResponse :=
  let (code, reason) : Nat × String := match e with
    | .resourceNotFound .. => (404, "NotFound")
    | .resourceExists .. => (409, "AlreadyExists")
    | .conflict .. => (409, "Conflict")
    | _ => (500, "InternalError")
  { status := "Failure", message := e.message, reason, code }

/-- An object that is missing. -/
def missing (c : Collection) (name : String) : ErrorResponse := errorOf (.resourceNotFound c.kind name)

/-- A request that is none of those served. -/
def unserved : ErrorResponse :=
  { status := "Failure", message := "the server could not find the requested resource", reason := "NotFound", code := 404 }

/-- A reply that holds a value. -/
def holding (v : Json) : Exchange.Reply := .response 200 v.render

/-- A reply that holds a list. -/
def listing (c : Collection) (items : List Json) : Exchange.Reply :=
  holding (.object [("apiVersion", .string c.apiVersion), ("kind", .string (c.kind ++ "List")),
    ("metadata", .object [("resourceVersion", .string "1")]), ("items", .array items)])

/-- A reply that holds an object, if it is there. -/
def lookup (c : Collection) (name : String) : Option Json → Exchange.Reply
  | some v => holding v
  | none => refusal (missing c name)

/-- A reply that reports that something was done. -/
def done : Exchange.Reply := holding (.object [("kind", .string "Status"), ("status", .string "Success")])

/-- The reply that holds what a call answers. -/
def replyOf : (c : Call) → c.Answer → Exchange.Reply
  | .listStorageClasses, cs => listing .storageClasses (cs.map StorageClass.toJson)
  | .getStorageClass name, c => lookup .storageClasses name (c.map StorageClass.toJson)
  | .createStorageClass _, c => holding (StorageClass.toJson c)
  | .replaceStorageClass _, c => holding (StorageClass.toJson c)
  | .deleteStorageClass _, _ => done
  | .listLocalClasses, cs => listing .localClasses (cs.map LocalClass.toJson)
  | .getLocalClass name, c => lookup .localClasses name (c.map LocalClass.toJson)
  | .replaceLocalClass _, c => holding (LocalClass.toJson c)
  | .replaceLocalClassStatus _, c => holding (LocalClass.toJson c)
  | .listVolumeGroups, gs => listing .volumeGroups (gs.map VolumeGroup.toJson)
  | .getVolumeGroup name, g => lookup .volumeGroups name (g.map VolumeGroup.toJson)
  | .createVolume _, v => holding (LogicalVolume.toJson v)
  | .getVolume name, v => lookup .volumes name (v.map LogicalVolume.toJson)
  | .replaceVolume _, v => holding (LogicalVolume.toJson v)
  | .deleteVolume _, _ => done

/-- The reply to a request, and the cluster after it. -/
def respond (s : Cluster) (r : Exchange.Request) : Exchange.Reply × Cluster :=
  match (Target.ofPath? r.target).bind (call? r) with
  | none => (refusal unserved, s)
  | some c =>
    match s.answer c with
    | (.ok a, s) => (replyOf c a, s)
    | (.error e, s) => (refusal (errorOf e), s)

end LocalVolumes.ApiServer
