import LocalVolumes.Fault
import LocalVolumes.Json.Record

/-!
# LocalVolumes.Exchange — requests to an API server and its replies

A request names a method and a target.  A reply with a status from 400 to 599 tells of an error: its body says
which, and where the body cannot be read the status itself and the text of the body take its place.
-/

namespace LocalVolumes

/-- What a request wants. -/
inductive Method
  | get
  | post
  | put
  | delete
  deriving DecidableEq, Repr

/-- The word of a method. -/
def Method.word : Method → String
  | .get => "GET"
  | .post => "POST"
  | .put => "PUT"
  | .delete => "DELETE"

/-- A request. -/
structure Exchange.Request where
  method : Method
  target : String
  body : Option Json

/-- What comes back. -/
inductive Exchange.Reply
  | response (status : Nat) (body : String)
  /-- The request did not get through. -/
  | failure (text : String)

namespace Exchange

open Json (Draft)

/-! ### Targets -/

/-- Whether a character may stand in the path of a target. -/
def isPathChar (c : Char) : Bool :=
  ('!' ≤ c && c ≤ '~') && c != '#' && c != '<' && c != '>' && c != '?' && c != '\x60'

/-- Whether a character may stand in the query of a target. -/
def isQueryChar (c : Char) : Bool :=
  ('!' ≤ c && c ≤ '~') && c != '"' && c != '#' && c != '<' && c != '>'

/-- The target of a path with a query or without.  A fragment is cut off, and no target has other characters
than those of paths and queries. -/
def target? (s : String) : Option String :=
  let kept := s.toList.takeWhile (· != '#')
  let path := kept.takeWhile (· != '?')
  let query := (kept.dropWhile (· != '?')).drop 1
  if path.all isPathChar && query.all isQueryChar then some (String.ofList kept) else none

/-! ### Replies -/

/-- What a status is called. -/
def statusPhrase : Nat → String
  | 400 => "Bad Request"
  | 401 => "Unauthorized"
  | 402 => "Payment Required"
  | 403 => "Forbidden"
  | 404 => "Not Found"
  | 405 => "Method Not Allowed"
  | 406 => "Not Acceptable"
  | 407 => "Proxy Authentication Required"
  | 408 => "Request Timeout"
  | 409 => "Conflict"
  | 410 => "Gone"
  | 411 => "Length Required"
  | 412 => "Precondition Failed"
  | 413 => "Payload Too Large"
  | 414 => "URI Too Long"
  | 415 => "Unsupported Media Type"
  | 416 => "Range Not Satisfiable"
  | 417 => "Expectation Failed"
  | 418 => "I'm a teapot"
  | 421 => "Misdirected Request"
  | 422 => "Unprocessable Entity"
  | 423 => "Locked"
  | 424 => "Failed Dependency"
  | 426 => "Upgrade Required"
  | 428 => "Precondition Required"
  | 429 => "Too Many Requests"
  | 431 => "Request Header Fields Too Large"
  | 451 => "Unavailable For Legal Reasons"
  | 500 => "Internal Server Error"
  | 501 => "Not Implemented"
  | 502 => "Bad Gateway"
  | 503 => "Service Unavailable"
  | 504 => "Gateway Timeout"
  | 505 => "HTTP Version Not Supported"
  | 506 => "Variant Also Negotiates"
  | 507 => "Insufficient Storage"
  | 508 => "Loop Detected"
  | 510 => "Not Extended"
  | 511 => "Network Authentication Required"
  | _ => "<unknown status code>"

/-- The error that a draft tells of. -/
def errorOfDraft? (d : Draft) : Option ErrorResponse := do
  let fields ← d.record? ["status", "message", "reason", "code"]
  return {
    status := ← (← fields.lookup "status").text?
    message := ← Draft.withDefault? "" Draft.text? (fields.lookup "message")
    reason := ← Draft.withDefault? "" Draft.text? (fields.lookup "reason")
    code := ← (← fields.lookup "code").natBelow? UInt16.size }

/-- The error that a status tells of when its body does not. -/
def bareError (status : Nat) (body : String) : ErrorResponse :=
  { status := toString status ++ " " ++ statusPhrase status
    message := Text.quoted body
    reason := "Failed to parse error data"
    code := status }

/-- Whether a status tells of an error. -/
def isErrorStatus (status : Nat) : Bool := 400 ≤ status && status < 600

/-- The body of a reply that tells of no error. -/
def Reply.content : Reply → Except ApiFault String
  | .failure text => .error (.unreachable text)
  | .response status body =>
    if isErrorStatus status then
      .error (.refused (((Draft.ofWholeText? body).bind errorOfDraft?).getD (bareError status body)))
    else .ok body

/-- The value that a reply holds. -/
def Reply.value {α : Type} (read : Draft → Option α) (r : Reply) : Except ApiFault α := do
  match (Draft.ofWholeText? (← r.content)).bind read with
  | some a => .ok a
  | none => .error .undecodable

/-- How many arrays and objects may stand inside each other where a reply is read as a value. -/
def depthLimit : Nat := 127

/-- The value of a draft that stands inside so many arrays and objects. -/
def valueWithin? (outer : Nat) (d : Draft) : Option Json :=
  if outer + d.depth ≤ depthLimit then d.toJson? else none

/-! ### Lists -/

/-- Whether a draft is the metadata of a list. -/
def isListMetadata (d : Draft) : Bool :=
  let texts := ["continue", "resourceVersion", "selfLink"]
  match d.lenientRecord? ("remainingItemCount" :: texts) with
  | some fields =>
    texts.all (fun f => (Draft.last? fields f Draft.text?).isSome) &&
      (Draft.last? fields "remainingItemCount" Draft.int64?).isSome
  | none => false

/-- The fields of a list.  Its metadata and items come once, and any other field holds a value. -/
def listFields? (d : Draft) : Option (List (String × Draft)) :=
  let names := ["metadata", "items"]
  d.fields?.filter (fun fields =>
    Draft.areDistinct names fields &&
      fields.all (fun f => names.contains f.1 || (valueWithin? 1 f.2).isSome))

/-- The items of a list of objects; null stands for none. -/
def itemsOfList? {α : Type} (read : Draft → Option α) (d : Draft) : Option (List α) := do
  let fields ← listFields? d
  if isListMetadata (← fields.lookup "metadata") then
    return (← Draft.optional? (Draft.items? read) (some (← fields.lookup "items"))).getD []
  else none

/-! ### Reports -/

/-- Whether a draft is one cause in a report. -/
def isCause (d : Draft) : Bool :=
  let texts := ["reason", "message", "field"]
  match d.record? texts with
  | some fields => texts.all (fun f => (Draft.withDefault? "" Draft.text? (fields.lookup f)).isSome)
  | none => false

/-- Whether a draft holds the details of a report. -/
def areDetails (d : Draft) : Bool :=
  let texts := ["name", "group", "kind", "uid"]
  match d.record? (texts ++ ["causes", "retryAfterSeconds"]) with
  | some fields =>
    texts.all (fun f => (Draft.withDefault? "" Draft.text? (fields.lookup f)).isSome) &&
      (Draft.withDefault? [] (Draft.items? (fun d => if isCause d then some d else none))
        (fields.lookup "causes")).isSome &&
      (Draft.withDefault? 0 (Draft.natBelow? UInt32.size) (fields.lookup "retryAfterSeconds")).isSome
  | none => false

/-- Whether a draft reports on what was done instead of showing an object. -/
def isReport (d : Draft) : Bool :=
  let texts := ["message", "reason"]
  match d.record? (["status", "code"] ++ texts ++ ["details"]) with
  | some fields =>
    (Draft.optional? (fun d => d.word?.filter (["Success", "Failure"].contains ·))
        (fields.lookup "status")).isSome &&
      (Draft.withDefault? 0 (Draft.natBelow? UInt16.size) (fields.lookup "code")).isSome &&
      texts.all (fun f => (Draft.withDefault? "" Draft.text? (fields.lookup f)).isSome) &&
      (Draft.optional? (fun d => if areDetails d then some d else none)
        (fields.lookup "details")).isSome
  | none => false

/-- The reply to a deletion: an object, or a report on what was done.  Which one it is shows in the value, so the
reply has to be one as a whole. -/
def deletionReport? {α : Type} (read : Draft → Option α) (d : Draft) : Option Unit := do
  let v ← valueWithin? 0 d
  if v.field "kind" = .string "Status" then (if isReport d then some () else none)
  else (read d).map (fun _ => ())

end Exchange

end LocalVolumes
