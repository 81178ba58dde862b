import LocalVolumes.Client

/-!
# LocalVolumes.Exchange.Script — a server that answers from a list

The replies are given in advance, and the requests are kept.  When no reply is left, every request fails.
-/

namespace LocalVolumes.Exchange

/-- Replies to come and requests that came, the last one first. -/
structure Script where
  replies : List Reply
  requests : List Request := []

namespace Script

/-- The error after the last reply. -/
def ended : ErrorResponse :=
  { status := "Failure", message := "script ended", reason := "Teapot", code := 418 }

/-- The reply after the last one. -/
def finalReply : Reply :=
  .response ended.code (Json.object [("status", .string ended.status), ("message", .string ended.message),
    ("reason", .string ended.reason), ("code", .nat ended.code)]).render

/-- Answers one request. -/
def send (r : Request) : StateM Script Reply := fun s =>
  match s.replies with
  | reply :: replies => (reply, ⟨replies, r :: s.requests⟩)
  | [] => (finalReply, ⟨[], r :: s.requests⟩)

/-- Answers a call.  Waiting takes no time, so a read is tried as long as there are replies. -/
def call (c : Call) : StateM Script c.Result := fun s =>
  Client.answer send (fun _ => pure ()) (s.replies.map (fun _ => 0)) c s

/-- What a routine gets to know that works through the script, at a time that stands still. -/
def effect : (e : Effect) → StateM Script e.Answer
  | .call c => call c
  | .now => pure (0 : Nat)
  | .pause _ => pure false
  | .record _ => pure ()

/-- Runs a routine. -/
def run {α : Type} (t : Routine α) (replies : List Reply) : α × Script := t.interpret effect { replies }

end Script

end LocalVolumes.Exchange
