import LocalVolumes.Call

/-!
# LocalVolumes.Routine — work that asks for effects

A routine is a value: it is done, or it asks for one effect and goes on with the answer.  Whoever runs it decides
what happens between two of its steps, so routines can be interleaved with each other and with other actors.
-/

namespace LocalVolumes

/-- Something that happened and is counted. -/
inductive Sample
  /-- A pass of the controller ended. -/
  | reconciliation (action : String) (ok : Bool)
  /-- An operation of the provisioner ended after so many milliseconds. -/
  | provisioning (operation : String) (ok : Bool) (ms : Nat)
  /-- A volume converged after so many polls. -/
  | convergence (operation : String) (attempts : Nat)
  deriving DecidableEq, Repr

/-- What a routine asks for. -/
inductive Effect
  | call (c : Call)
  /-- The time, in milliseconds. -/
  | now
  /-- To wait so many milliseconds, unless the routine is cancelled. -/
  | pause (ms : Nat)
  | record (s : Sample)

/-- What a routine gets to know.  After a pause it is whether the routine was cancelled. -/
abbrev Effect.Answer : Effect → Type
  | .call c => c.Result
  | .now => Nat
  | .pause _ => Bool
  | .record _ => Unit

/-- Work that asks for effects and ends with a value. -/
inductive Routine (α : Type) : Type
  | done (a : α)
  | ask (e : Effect) (next : e.Answer → Routine α)

namespace Routine

variable {α β : Type}

/-- One piece of work after another. -/
def bind (t : Routine α) (f : α → Routine β) : Routine β :=
  match t with
  | .done a => f a
  | .ask e next => .ask e (fun r => (next r).bind f)

instance : Monad Routine where
  pure := .done
  bind := bind

@[simp] theorem bind_done (a : α) (f : α → Routine β) : (done a).bind f = f a := rfl

@[simp] theorem bind_ask (e : Effect) (next : e.Answer → Routine α) (f : α → Routine β) :
    (ask e next).bind f = ask e (fun r => (next r).bind f) := rfl

@[simp] theorem bind_pure_right (t : Routine α) : t.bind done = t := by
  induction t with
  | done a => rfl
  | ask e next ih => simp [ih]

theorem bind_assoc {γ : Type} (t : Routine α) (f : α → Routine β) (g : β → Routine γ) :
    (t.bind f).bind g = t.bind (fun a => (f a).bind g) := by
  induction t with
  | done a => rfl
  | ask e next ih => simp [ih]

/-- Asks for one effect. -/
def perform (e : Effect) : Routine e.Answer := .ask e .done

/-- A call on the cluster. -/
def call (c : Call) : Routine c.Result := perform (.call c)

/-- The time. -/
def now : Routine Nat := perform .now

/-- A pause; the answer says whether the routine was cancelled. -/
def pause (ms : Nat) : Routine Bool := perform (.pause ms)

/-- Counts something that happened. -/
def record (s : Sample) : Routine Unit := perform (.record s)

/-- Runs a routine with the effects of a monad. -/
def interpret {m : Type → Type} [Monad m] (handle : (e : Effect) → m e.Answer) : Routine α → m α
  | .done a => pure a
  | .ask e next => handle e >>= fun r => (next r).interpret handle

end Routine

end LocalVolumes
