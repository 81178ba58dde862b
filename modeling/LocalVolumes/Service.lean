import LocalVolumes.Json.Shape
import LocalVolumes.Provisioning
import LocalVolumes.Service.MediaType
import LocalVolumes.Service.Route

/-!
# LocalVolumes.Service — the provisioner over HTTP

Volumes are created, grown and released by requests with JSON bodies.  A request whose body cannot be read is
answered before anything is done, and every failure of an operation has a status and a code.
-/

namespace LocalVolumes.Service

/-- A request. -/
structure Request where
  method : String
  path : String
  body : String
  contentType : Option String

/-- The body of an answer. -/
inductive Body
  | json (v : Json)
  | text (s : String)

/-- An answer. -/
structure Response where
  status : Nat
  contentType : Option String := none
  /-- The methods that are admitted, if the one of the request is not. -/
  allow : Option String := none
  body : Body := .text ""

/-! ### Failures -/

/-- The status and the code of a failure. -/
def errorStatus : Fault → Nat × String
  | .invalidArgument _ => (400, "invalid_argument")
  | .resourceNotFound .. => (404, "not_found")
  | .conflict .. => (409, "conflict")
  | .resourceExists .. => (409, "conflict")
  | .noCandidate _ => (422, "no_candidate")
  | .insufficientCapacity .. => (507, "insufficient_capacity")
  | .timeout .. => (504, "timeout")
  | .cancelled _ => (503, "cancelled")
  | _ => (500, "internal_error")

/-- An answer in JSON. -/
def jsonResponse (status : Nat) (v : Json) : Response :=
  { status, contentType := some "application/json", body := .json v }

/-- An answer in plain text. -/
def textResponse (status : Nat) (s : String) : Response :=
  { status, contentType := some "text/plain; charset=utf-8", body := .text s }

/-- The answer to a request that failed. -/
def errorResponse (e : Fault) : Response :=
  let (status, code) := errorStatus e
  jsonResponse status (.object [("error", .string code), ("message", .string e.message)])

/-! ### Bodies of requests -/

/-- Why a body was refused. -/
inductive Rejection
  | notJson
  | draft (fault : Json.Draft.Fault)

/-- The wording of a refusal. -/
def Rejection.message : Rejection → String
  | .notJson => "Expected request with `Content-Type: application/json`"
  | .draft .malformed => "Failed to parse the request body as JSON: malformed text"
  | .draft .mismatch =>
    "Failed to deserialize the JSON body into the target type: unexpected value"

/-- Reads a body of JSON. -/
def readBody {α : Type} (r : Request) (read : Json.Draft → Except Json.Draft.Fault α) :
    Except Fault α :=
  let reject (why : Rejection) : Except Fault α := .error (.invalidArgument why.message)
  match r.contentType.bind MediaType.ofText? with
  | none => reject .notJson
  | some m =>
    if !m.isJson then reject .notJson
    else
      match read (Json.Draft.ofText r.body) with
      | .ok a => .ok a
      | .error fault => reject (.draft fault)

open Json Draft

/-- A member of a record that is read in a certain way. -/
def member {α : Type} (name : String) (required : Bool) (read : Draft → Except Draft.Fault α) :
    Member :=
  { name, required, check := fun d => (read d).map (fun _ => ()) }

/-- The labels of a place. -/
def readSegments (d : Draft) : Except Draft.Fault (NameMap String) := do
  let fields ← asRecord [member "segments" false asStringMap] d
  found fields "segments" ∅ asStringMap

/-- The places where a volume should be, best first. -/
def readPreferred (d : Draft) : Except Draft.Fault (List (NameMap String)) := do
  let fields ← asRecord [member "preferred" false (asList readSegments)] d
  found fields "preferred" [] (asList readSegments)

/-- A request for a volume.  The node is the one of the first place where the volume should be. -/
def readCreate (d : Draft) : Except Draft.Fault CreateRequest := do
  let fields ← asRecord
    [member "name" true asString, member "capacityBytes" true asNat64,
      member "parameters" false asStringMap,
      member "accessibilityRequirements" false (asOption readPreferred)] d
  let name ← found fields "name" "" asString
  let bytes ← found fields "capacityBytes" 0 asNat64
  let parameters ← found fields "parameters" ∅ asStringMap
  let preferred ← found fields "accessibilityRequirements" none (asOption readPreferred)
  .ok { name, bytes, parameters
        preferredNode := (preferred.bind List.head?).bind (·.get? Marks.topologyKey) }

/-- A request to grow a volume. -/
def readExpand (id : String) (d : Draft) : Except Draft.Fault ExpandRequest := do
  let fields ← asRecord
    [member "capacityBytes" true asNat64, member "block" false asBool] d
  let bytes ← found fields "capacityBytes" 0 asNat64
  let block ← found fields "block" false asBool
  .ok { id, bytes, block }

/-! ### Answers -/

/-- A volume that was created, as JSON. -/
def createdJson (v : CreatedVolume) : Json :=
  .object [("volumeId", .string v.id), ("capacityBytes", .nat v.bytes),
    ("volumeContext", v.context.toJson),
    ("accessibleTopology", .array [.object [("segments", v.topology.toJson)]])]

/-- A volume that has grown, as JSON. -/
def expandedJson (v : ExpandedVolume) : Json :=
  .object [("capacityBytes", .nat v.bytes), ("nodeExpansionRequired", .bool v.nodeExpansionRequired)]

/-- The answer to a request for a volume. -/
def answerCreate (cfg : ProvisionerConfig) (r : Request) : Routine Response :=
  match readBody r readCreate with
  | .error e => pure (errorResponse e)
  | .ok request => do
    match ← createVolume cfg request with
    | .ok v => pure (jsonResponse 201 (createdJson v))
    | .error e => pure (errorResponse e)

/-- The answer to a request to release a volume. -/
def answerDelete (id : String) : Routine Response := do
  match ← deleteVolume id with
  | .ok () => pure { status := 204 }
  | .error e => pure (errorResponse e)

/-- The answer to a request to grow a volume. -/
def answerExpand (cfg : ProvisionerConfig) (id : String) (r : Request) : Routine Response :=
  match readBody r (readExpand id) with
  | .error e => pure (errorResponse e)
  | .ok request => do
    match ← expandVolume cfg request with
    | .ok v => pure (jsonResponse 200 (expandedJson v))
    | .error e => pure (errorResponse e)

/-- Goes on with the name of a volume that stands in a path. -/
def withName (part : String) (next : String → Routine Response) : Routine Response :=
  match Route.decodeName? part with
  | some name => next name
  | none => pure (textResponse 400 "Invalid URL: Invalid UTF-8 in `id`")

/-- The answer to a request with a method that its route admits. -/
def answer (cfg : ProvisionerConfig) (stopping : Bool) (r : Request) : Route → Routine Response
  | .volumes => answerCreate cfg r
  | .volume part => withName part answerDelete
  | .expansion part => withName part (fun id => answerExpand cfg id r)
  | .health => pure (textResponse 200 "ok")
  | .ready => pure (if stopping then textResponse 503 "shutting down" else textResponse 200 "ready")

/-- An answer without its body, if the request asks for none. -/
def trimmed (r : Request) (a : Response) : Response :=
  if r.method = "HEAD" then { a with body := .text "" } else a

/-- The answer to a request; `stopping` says whether the service is being shut down. -/
def respond (cfg : ProvisionerConfig) (stopping : Bool) (r : Request) : Routine Response :=
  match Route.ofPath? r.path with
  | none => pure { status := 404 }
  | some route =>
    if route.methods.contains r.method then do
      return trimmed r (← answer cfg stopping r route)
    else pure { status := 405, allow := some (",".intercalate route.methods) }

/-! ### Listening -/

/-- How a server ends that runs until it is told to stop: well, unless another listens where it wants to. -/
def serve (addressInUse : Bool) : Except Fault Unit :=
  if addressInUse then
    .error (.internal "Failed to bind REST server: Address already in use (os error 98)")
  else .ok ()

end LocalVolumes.Service
