import LocalVolumes.Call
import LocalVolumes.Exchange
import LocalVolumes.Exchange.Target
import LocalVolumes.Routine

/-!
# LocalVolumes.Client — calls as requests to an API server

Every call is one request, and its answer is read from the reply.  A read whose failure may pass by itself is
tried again after a while; a write is tried once.
-/

namespace LocalVolumes

namespace Client

/-! ### Requests -/

/-- A request about a target, unless none can be made of its name.  Only the path of an object that is read has
no question mark behind it. -/
def request (method : Method) (t : Target) (body : Option Json) : Option Exchange.Request :=
  let query := match method, t with
    | .get, .object _ _ => ""
    | _, _ => "?"
  (Exchange.target? (t.path ++ query)).map (fun target => ⟨method, target, body⟩)

/-- The request of a call. -/
def request? : Call → Option Exchange.Request
  | .listStorageClasses => request .get (.collection .storageClasses) none
  | .getStorageClass name => request .get (.object .storageClasses name) none
  | .createStorageClass c => request .post (.collection .storageClasses) (some c.toJson)
  | .replaceStorageClass c => request .put (.object .storageClasses (Resource.key c)) (some c.toJson)
  | .deleteStorageClass name => request .delete (.object .storageClasses name) (some (.object []))
  | .listLocalClasses => request .get (.collection .localClasses) none
  | .getLocalClass name => request .get (.object .localClasses name) none
  | .replaceLocalClass c => request .put (.object .localClasses (Resource.key c)) (some c.toJson)
  | .replaceLocalClassStatus c => request .put (.status .localClasses (Resource.key c)) (some c.toJson)
  | .listVolumeGroups => request .get (.collection .volumeGroups) none
  | .getVolumeGroup name => request .get (.object .volumeGroups name) none
  | .createVolume v => request .post (.collection .volumes) (some v.toJson)
  | .getVolume name => request .get (.object .volumes name) none
  | .replaceVolume v => request .put (.object .volumes (Resource.key v)) (some v.toJson)
  | .deleteVolume name => request .delete (.object .volumes name) (some (.object []))

/-- Whether a call changes nothing. -/
def isRead : Call → Bool
  | .listStorageClasses => true
  | .getStorageClass _ => true
  | .listLocalClasses => true
  | .getLocalClass _ => true
  | .listVolumeGroups => true
  | .getVolumeGroup _ => true
  | .getVolume _ => true
  | _ => false

/-! ### Answers -/

/-- An object that may be missing. -/
def present {α : Type} (r : Except ApiFault α) : Except ApiFault (Option α) :=
  match r with
  | .ok a => .ok (some a)
  | .error (.refused e) => if e.reason = "NotFound" then .ok none else .error (.refused e)
  | .error e => .error e

/-- What a reply says about a call. -/
def read (r : Exchange.Reply) : (c : Call) → Except ApiFault c.Answer
  | .listStorageClasses => r.value (Exchange.itemsOfList? StorageClass.ofDraft?)
  | .getStorageClass _ => present (r.value StorageClass.ofDraft?)
  | .createStorageClass _ => r.value StorageClass.ofDraft?
  | .replaceStorageClass _ => r.value StorageClass.ofDraft?
  | .deleteStorageClass _ => r.value (Exchange.deletionReport? StorageClass.ofDraft?)
  | .listLocalClasses => r.value (Exchange.itemsOfList? LocalClass.ofDraft?)
  | .getLocalClass _ => present (r.value LocalClass.ofDraft?)
  | .replaceLocalClass _ => r.value LocalClass.ofDraft?
  | .replaceLocalClassStatus _ => r.value LocalClass.ofDraft?
  | .listVolumeGroups => r.value (Exchange.itemsOfList? VolumeGroup.ofDraft?)
  | .getVolumeGroup _ => present (r.value VolumeGroup.ofDraft?)
  | .createVolume _ => r.value LogicalVolume.ofDraft?
  | .getVolume _ => present (r.value LogicalVolume.ofDraft?)
  | .replaceVolume _ => r.value LogicalVolume.ofDraft?
  | .deleteVolume _ => r.value (Exchange.deletionReport? LogicalVolume.ofDraft?)

/-! ### Failures -/

/-- Whether a failure of a read may pass by itself. -/
def isTransient : ApiFault → Bool
  | .refused e => e.code == 429 || 500 ≤ e.code
  | .undecodable => false
  | _ => true

/-- The failure of a creation: a conflict says that the name is taken. -/
def creationFault (kind name : String) : ApiFault → Fault
  | .refused e => if e.code = 409 then .resourceExists kind name else .api (.refused e)
  | e => .api e

/-- The failure of a replacement. -/
def replacementFault (kind name : String) : ApiFault → Fault
  | .refused e => if e.code = 409 then .conflict kind name e.message else .api (.refused e)
  | e => .api e

/-- The failure of a deletion, which is none if the object is missing. -/
def deletionResult : ApiFault → Except Fault Unit
  | .refused e => if e.code = 404 then .ok () else .error (.api (.refused e))
  | e => .error (.api e)

/-- What a failure means for a call. -/
def settle (e : ApiFault) : (c : Call) → c.Result
  | .createStorageClass c => .error (creationFault StorageClass.kind (Resource.key c) e)
  | .replaceStorageClass c => .error (replacementFault StorageClass.kind (Resource.key c) e)
  | .deleteStorageClass _ => deletionResult e
  | .replaceLocalClass c => .error (replacementFault LocalClass.kind (Resource.key c) e)
  | .replaceLocalClassStatus c => .error (replacementFault LocalClass.kind (Resource.key c) e)
  | .createVolume v => .error (creationFault LogicalVolume.kind (Resource.key v) e)
  | .replaceVolume v => .error (replacementFault LogicalVolume.kind (Resource.key v) e)
  | .deleteVolume _ => deletionResult e
  | .listStorageClasses => .error (.api e)
  | .getStorageClass _ => .error (.api e)
  | .listLocalClasses => .error (.api e)
  | .getLocalClass _ => .error (.api e)
  | .listVolumeGroups => .error (.api e)
  | .getVolumeGroup _ => .error (.api e)
  | .getVolume _ => .error (.api e)

/-! ### Attempts -/

section Attempts

variable {m : Type → Type} [Monad m]

/-- Tries a read; `waits` are the times before further attempts. -/
def attempt (send : Exchange.Request → m Exchange.Reply) (wait : Nat → m Unit) (c : Call)
    (request : Exchange.Request) : List Nat → m c.Result
  | [] => do
    match read (← send request) c with
    | .ok a => return .ok a
    | .error e => return settle e c
  | ms :: waits => do
    match read (← send request) c with
    | .ok a => return .ok a
    | .error e =>
      if isRead c && isTransient e then
        wait ms
        attempt send wait c request waits
      else return settle e c

/-- Answers a call through a server. -/
def answer (send : Exchange.Request → m Exchange.Reply) (wait : Nat → m Unit) (waits : List Nat)
    (c : Call) : m c.Result :=
  match request? c with
  | none => return settle .invalidUri c
  | some request => attempt send wait c request waits

end Attempts

end Client

end LocalVolumes
