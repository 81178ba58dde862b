import LocalVolumes.Text.Quoted

/-!
# LocalVolumes.Fault — what can go wrong, and what then

Every operation of the controller, of the provisioner and of a cluster fails with one of these causes.  A cause
has a wording, a text to be recorded in the status of a local class, and a rule for when to try again.
-/

namespace LocalVolumes

/-- An answer of an API server that tells of an error. -/
structure ErrorResponse where
  status : String
  message : String
  reason : String
  code : Nat
  deriving DecidableEq, Repr

/-- What can go wrong between a client and an API server. -/
inductive ApiFault
  /-- The server answered with an error. -/
  | refused (response : ErrorResponse)
  /-- The request did not get through. -/
  | unreachable (text : String)
  /-- No request can be made of the name of the object. -/
  | invalidUri
  /-- The answer is none that was expected. -/
  | undecodable
  /-- A line of the answer does not end. -/
  | endlessLine
  deriving DecidableEq, Repr

/-- A cause of failure. -/
inductive Fault
  | internal (text : String)
  | api (cause : ApiFault)
  | resourceNotFound (kind name : String)
  | resourceExists (kind name : String)
  | conflict (kind name reason : String)
  | resolution (text : String)
  | validation (text : String)
  | invalidArgument (text : String)
  | noCandidate (text : String)
  | insufficientCapacity (requested available : Nat)
  | timeout (volume : String) (attempts : Nat)
  | cancelled (volume : String)
  | volumeFailed (volume reason : String)
  | quantityParse (text : String)
  | encoding (text : String)
  | jsonParse (text : String)
  | yaml (text : String)
  | io (text : String)
  deriving DecidableEq, Repr

/-! ### Wording -/

/-- An answer with all its parts. -/
def ErrorResponse.describe (r : ErrorResponse) : String :=
  "ErrorResponse \x7b status: " ++ Text.quoted r.status ++ ", message: " ++ Text.quoted r.message ++
    ", reason: " ++ Text.quoted r.reason ++ ", code: " ++ toString r.code ++ " \x7d"

/-- The wording of what went wrong with an API server. -/
def ApiFault.message : ApiFault → String
  | .refused r => "ApiError: " ++ r.message ++ ": " ++ r.reason ++ " (" ++ r.describe ++ ")"
  | .unreachable text => "ServiceError: " ++ text
  | .invalidUri =>
    "Failed to build request: failed to build request: invalid uri character"
  | .undecodable => "Error deserializing response"
  | .endlessLine => "Error finding newline character"

namespace Fault

/-- The wording of a cause. -/
def message : Fault → String
  | .internal text => "Internal error: " ++ text
  | .api cause => "Kubernetes API error: " ++ cause.message
  | .resourceNotFound kind name => "Resource not found: " ++ kind ++ "/" ++ name
  | .resourceExists kind name => "Resource already exists: " ++ kind ++ "/" ++ name
  | .conflict kind name reason => "Conflict on " ++ kind ++ "/" ++ name ++ ": " ++ reason
  | .resolution text => text
  | .validation text => "validation failed: " ++ text
  | .invalidArgument text => "Invalid argument: " ++ text
  | .noCandidate text => "No candidate volume group: " ++ text
  | .insufficientCapacity requested available =>
    "Insufficient capacity: requested " ++ toString requested ++ " bytes, available " ++
      toString available ++ " bytes"
  | .timeout volume attempts =>
    "Timed out after " ++ toString attempts ++ " attempts waiting for logical volume " ++ volume
  | .cancelled volume => "Operation on logical volume " ++ volume ++ " was cancelled"
  | .volumeFailed volume reason => "Logical volume " ++ volume ++ " failed: " ++ reason
  | .quantityParse text => "Quantity parse error: " ++ text
  | .encoding text => "Unable to decode volume group bindings: " ++ text
  | .jsonParse text => "JSON parse error: " ++ text
  | .yaml text => "YAML error: " ++ text
  | .io text => "IO error: " ++ text

/-- The text recorded in the status of a local class: what was found wrong with the class stands there without
the words before it. -/
def statusReason : Fault → String
  | .validation text => text
  | .resolution text => text
  | .internal text => text
  | e => e.message

/-! ### When to try again -/

/-- What to do about a failed pass. -/
inductive Action
  /-- Try again, after longer and longer waits. -/
  | backOff
  /-- Try again after so many milliseconds. -/
  | retryAfter (ms : Nat)
  /-- Wait for a change. -/
  | awaitChange
  deriving DecidableEq, Repr

/-- What to do about a failure. -/
def action : Fault → Action
  | .timeout .. => .retryAfter 30000
  | .cancelled .. => .retryAfter 30000
  | .insufficientCapacity .. => .retryAfter 60000
  | .noCandidate .. => .retryAfter 60000
  | .resolution .. => .awaitChange
  | .validation .. => .awaitChange
  | .invalidArgument .. => .awaitChange
  | .quantityParse .. => .awaitChange
  | _ => .backOff

/-- Whether an object of the name is already there. -/
def isAlreadyExists : Fault → Bool
  | .resourceExists .. => true
  | .api (.refused r) => r.code == 409 && r.reason == "AlreadyExists"
  | _ => false

/-- Whether an object is missing. -/
def isNotFound : Fault → Bool
  | .resourceNotFound .. => true
  | .api (.refused r) => r.code == 404
  | _ => false

end Fault

end LocalVolumes
