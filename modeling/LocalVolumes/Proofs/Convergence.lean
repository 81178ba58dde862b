import LocalVolumes.Provisioning
import Mathlib.Algebra.Order.Floor.Div
import Mathlib.Algebra.Order.Group.Abs
import Mathlib.Algebra.Order.Group.Int

/-!
# LocalVolumes.Proofs.Convergence — how long a wait lasts

A round of a wait is a pause, then a look, and a glance at the clock if the look has not settled anything.  Where
nothing but the pauses takes time, the clock leaves room for as many rounds as there are intervals in the timeout, and
for one at least.  The wait ends with the first look that settles it, with its last round, or with the pause before
which it is cancelled.  All this takes a clock that can tell the times of the wait.
-/

namespace LocalVolumes

/-- The number of rounds that a wait has time for. -/
def ProvisionerConfig.rounds (cfg : ProvisionerConfig) : Nat := max 1 (cfg.convergenceTimeout ⌈/⌉ cfg.pollInterval)

/-! ### A wait and what it meets -/

/-- What a wait meets. -/
structure Outlook where
  /-- The answers to the looks at the volume of a name, which are counted from one. -/
  looks : String → Nat → Except Fault (Option LogicalVolume)
  /-- The pause before which the wait is cancelled, if it is. -/
  cancelledAt : Option Nat := none

/-- The time, and how often a wait has slept and made a call. -/
structure Tally where
  time : Nat
  sleeps : Nat
  calls : Nat
  deriving DecidableEq, Repr

/-- The tally after a pause. -/
def Tally.slept (t : Tally) (ms : Nat) : Tally := { t with time := t.time + ms, sleeps := t.sleeps + 1 }

/-- The tally after a call. -/
def Tally.called (t : Tally) : Tally := { t with calls := t.calls + 1 }

namespace Outlook

variable {α : Type} (o : Outlook)

/-- Whether a wait is cancelled before a pause. -/
def isCancelledAt (k : Nat) : Bool := o.cancelledAt.any (· ≤ k)

/-- The effects of a wait: pauses take their time, nothing else does, and there is nothing but the volume. -/
def handle : (e : Effect) → StateM Tally e.Answer
  | .now => fun t => (t.time, t)
  | .pause ms => fun t => if o.isCancelledAt (t.sleeps + 1) then (true, t) else (false, t.slept ms)
  | .record _ => fun t => ((), t)
  | .call (.getVolume name) => fun t => (o.looks name (t.calls + 1), t.called)
  | .call _ => fun t => (.error (.internal "not available"), t.called)

/-- The result of a routine, and its tally. -/
def watch (t : Routine α) (tally : Tally) : α × Tally := t.interpret o.handle tally

variable {o} {t : Tally}

@[simp] theorem watch_done (a : α) : o.watch (.done a) t = (a, t) := rfl

@[simp] theorem watch_now_bind (f : Nat → Routine α) : o.watch (Routine.now.bind f) t = o.watch (f t.time) t := rfl

@[simp] theorem watch_record_bind (s : Sample) (f : Unit → Routine α) :
    o.watch ((Routine.record s).bind f) t = o.watch (f ()) t := rfl

@[simp] theorem watch_getVolume_bind (name : String) (f : Except Fault (Option LogicalVolume) → Routine α) :
    o.watch ((Routine.call (.getVolume name)).bind f) t =
      o.watch (f (o.looks name (t.calls + 1))) t.called := rfl

theorem watch_pause_bind_of_cancelled {ms : Nat} {f : Bool → Routine α} (h : o.isCancelledAt (t.sleeps + 1) = true) :
    o.watch ((Routine.pause ms).bind f) t = o.watch (f true) t := by
  have hpause : o.handle (.pause ms) t = (true, t) := if_pos h
  exact congrArg (fun r : Bool × Tally => o.watch (f r.1) r.2) hpause

theorem watch_pause_bind {ms : Nat} {f : Bool → Routine α} (h : o.isCancelledAt (t.sleeps + 1) = false) :
    o.watch ((Routine.pause ms).bind f) t = o.watch (f false) (t.slept ms) := by
  have hpause : o.handle (.pause ms) t = (false, t.slept ms) := if_neg (by simp [h])
  exact congrArg (fun r : Bool × Tally => o.watch (f r.1) r.2) hpause

end Outlook

/-! ### One look -/

theorem sizesEqual_iff {left right delta : Nat} :
    sizesEqual left right delta = true ↔ |(left : ℤ) - right| < delta := by
  rw [sizesEqual, decide_eq_true_iff, abs_lt]
  omega

namespace LogicalVolume

variable {v : LogicalVolume} {status : VolumeStatus} (h : v.status = some status)
include h

theorem phase_of_status : v.phase = status.phase := by rw [phase, h, Option.bind_some]

theorem actualBytes_of_status : v.actualBytes = Quantity.bytesOrZero status.actualSize := by
  rw [actualBytes, h, Option.bind_some]

theorem failureReason_of_status : v.failureReason = status.reason.getD "" := by
  rw [failureReason, h, Option.bind_some]

end LogicalVolume

namespace VolumeStatus

variable {status : VolumeStatus}

/-- The size that a status tells, in bytes; a status without a size tells zero. -/
inductive TellsSize (status : VolumeStatus) : Nat → Prop
  | reported {size : Quantity} {bytes : Nat} : status.actualSize = some size → size.bytes = .ok bytes →
      TellsSize status bytes
  | unreported : status.actualSize = none → TellsSize status 0

/-- The reason that a status tells; a status without a reason tells the empty text. -/
inductive TellsReason (status : VolumeStatus) : String → Prop
  | reported {reason : String} : status.reason = some reason → TellsReason status reason
  | unreported : status.reason = none → TellsReason status ""

theorem tellsSize_iff {bytes : Nat} : status.TellsSize bytes ↔ Quantity.bytesOrZero status.actualSize = .ok bytes := by
  constructor
  · intro h
    cases h with
    | reported hsize hbytes => rw [hsize]; exact hbytes
    | unreported hnone => rw [hnone]; rfl
  · intro h
    cases hsize : status.actualSize with
    | some size => exact .reported hsize (by rwa [hsize] at h)
    | none =>
      rw [hsize] at h
      exact Except.ok.inj h ▸ .unreported hsize

theorem tellsReason_iff {reason : String} : status.TellsReason reason ↔ status.reason.getD "" = reason := by
  constructor
  · intro h
    cases h with
    | reported hsome => rw [hsome, Option.getD_some]
    | unreported hnone => rw [hnone, Option.getD_none]
  · rintro rfl
    cases hreason : status.reason with
    | some reason => exact .reported hreason
    | none => exact .unreported hreason

end VolumeStatus

namespace Provisioning

/-- The answer to the `k`-th look ends a wait, with a result. -/
inductive Stops (name : String) (requested delta k : Nat) :
    Except Fault (Option LogicalVolume) → Except Fault Nat → Prop
  | unread (e : Fault) : Stops name requested delta k (.error e) (.error e)
  | absent : Stops name requested delta k (.ok none) (.error (.resourceNotFound "LVMLogicalVolume" name))
  | failed {v : LogicalVolume} {status : VolumeStatus} {reason : String} : v.status = some status →
      status.phase = some .failed → status.TellsReason reason →
      Stops name requested delta k (.ok (some v)) (.error (.volumeFailed name reason))
  | unparsable {v : LogicalVolume} {status : VolumeStatus} {size : Quantity} {cause : Quantity.Fault} :
      v.status = some status → status.phase = some .created → status.actualSize = some size →
      size.bytes = .error cause → Stops name requested delta k (.ok (some v)) (.error (.quantityParse cause.message))
  | converged {v : LogicalVolume} {status : VolumeStatus} {actual : Nat} : v.status = some status →
      status.phase = some .created → status.TellsSize actual → |(requested : ℤ) - actual| < delta →
      Stops name requested delta k (.ok (some v)) (.ok k)

variable {cfg : ProvisionerConfig} {name operation : String} {requested deadline fuel attempts : Nat}
  {x : Except Fault (Option LogicalVolume)}

/-- What a wait does with the answer to its look. -/
def judged (cfg : ProvisionerConfig) (name : String) (requested : Nat) (operation : String)
    (deadline fuel attempts : Nat) : Except Fault (Option LogicalVolume) → Routine (Except Fault Nat)
  | .error e => .done (.error e)
  | .ok v =>
    match look name requested cfg.resizeDelta v with
    | .stopped e => .done (.error e)
    | .converged =>
      (Routine.record (.convergence operation (attempts + 1))).bind fun _ => .done (.ok (attempts + 1))
    | .notYet => Routine.now.bind fun time =>
      if deadline ≤ time then .done (.error (.timeout name (attempts + 1)))
      else await cfg name requested operation deadline fuel (attempts + 1)

theorem await_succ :
    await cfg name requested operation deadline (fuel + 1) attempts =
      (Routine.pause cfg.pollInterval).bind fun cancelled =>
        if cancelled then .done (.error (.cancelled name))
        else (Routine.call (.getVolume name)).bind (judged cfg name requested operation deadline fuel attempts) := by
  rw [await]
  refine congrArg (Routine.pause cfg.pollInterval).bind (funext fun cancelled => ?_)
  split
  · rfl
  · exact congrArg (Routine.call (.getVolume name)).bind (funext fun x => by cases x <;> rfl)

/-- What holds of every failure and of a wait that has converged, and is passed on from what follows a pause, a look and
a glance at the clock, holds of a wait. -/
theorem await_induction {M : Routine (Except Fault Nat) → Prop} (hfail : ∀ e, M (.done (.error e)))
    (hconverged : ∀ found k, look name requested cfg.resizeDelta found = .converged →
      M ((Routine.record (.convergence operation k)).bind fun _ => .done (.ok k)))
    (hpause : ∀ f, (∀ cancelled, M (f cancelled)) → M ((Routine.pause cfg.pollInterval).bind f))
    (hlook : ∀ f, (∀ x, M (f x)) → M ((Routine.call (.getVolume name)).bind f))
    (hnow : ∀ f, (∀ time, M (f time)) → M (Routine.now.bind f)) :
    M (await cfg name requested operation deadline fuel attempts) := by
  induction fuel generalizing attempts with
  | zero => exact hfail _
  | succ fuel ih =>
    rw [await_succ]
    refine hpause _ fun cancelled => ?_
    split
    · exact hfail _
    · refine hlook _ fun x => ?_
      cases x with
      | error e => exact hfail e
      | ok found =>
        simp only [judged]
        split
        · exact hfail _
        · next hc => exact hconverged found _ hc
        · refine hnow _ fun time => ?_
          split
          · exact hfail _
          · exact ih

/-- A look that ends a wait ends it with its result, and at once. -/
theorem watch_judged_of_stops {o : Outlook} {t : Tally} {r : Except Fault Nat}
    (h : Stops name requested cfg.resizeDelta (attempts + 1) x r) :
    o.watch (judged cfg name requested operation deadline fuel attempts x) t = (r, t) := by
  cases h with
  | unread e => rfl
  | absent => rfl
  | @failed v status reason hstatus hphase hreason =>
    have htold : v.failureReason = reason :=
      (LogicalVolume.failureReason_of_status hstatus).trans (VolumeStatus.tellsReason_iff.1 hreason)
    simp [judged, look, LogicalVolume.phase_of_status hstatus, hphase, htold]
  | @unparsable v status size cause hstatus hphase hsize hactual =>
    have hbytes : v.actualBytes = .error cause := by
      rw [LogicalVolume.actualBytes_of_status hstatus, hsize]
      exact hactual
    simp [judged, look, LogicalVolume.phase_of_status hstatus, hphase, hbytes, Quantity.Fault.toFault]
  | @converged v status actual hstatus hphase hactual hclose =>
    have hbytes : v.actualBytes = .ok actual :=
      (LogicalVolume.actualBytes_of_status hstatus).trans (VolumeStatus.tellsSize_iff.1 hactual)
    simp [judged, look, LogicalVolume.phase_of_status hstatus, hphase, hbytes, sizesEqual_iff.2 hclose]

/-- After any other look it is up to the clock. -/
theorem judged_of_not_stops (h : ∀ r, ¬ Stops name requested cfg.resizeDelta (attempts + 1) x r) :
    judged cfg name requested operation deadline fuel attempts x = Routine.now.bind fun time =>
      if deadline ≤ time then .done (.error (.timeout name (attempts + 1)))
      else await cfg name requested operation deadline fuel (attempts + 1) := by
  match x with
  | .error e => exact absurd (.unread e) (h _)
  | .ok none => exact absurd .absent (h _)
  | .ok (some v) =>
    have hlook : look name requested cfg.resizeDelta (some v) = .notYet := by
      cases hstatus : v.status with
      | none => simp [look, LogicalVolume.phase, hstatus]
      | some status =>
        have hfound := LogicalVolume.phase_of_status hstatus
        cases hphase : status.phase with
        | none => simp [look, hfound, hphase]
        | some p =>
          cases p with
          | failed => exact absurd (.failed hstatus hphase (VolumeStatus.tellsReason_iff.2 rfl)) (h _)
          | created =>
            have hbytes := LogicalVolume.actualBytes_of_status hstatus
            cases hactual : Quantity.bytesOrZero status.actualSize with
            | error cause =>
              cases hsize : status.actualSize with
              | none => simp [hsize, Quantity.bytesOrZero] at hactual
              | some size => exact absurd (.unparsable hstatus hphase hsize (hsize ▸ hactual)) (h _)
            | ok actual =>
              have hfar : ¬ sizesEqual requested actual cfg.resizeDelta = true := fun hc =>
                h _ (.converged hstatus hphase (VolumeStatus.tellsSize_iff.2 hactual) (sizesEqual_iff.1 hc))
              simp [look, hfound, hphase, hbytes, hactual, hfar]
          | pending => simp [look, hfound, hphase]
          | resizing => simp [look, hfound, hphase]
          | unknown => simp [look, hfound, hphase]
    simp only [judged, hlook]

/-! ### A whole wait -/

variable {o : Outlook} {start : Nat}

/-- No answer before the `k`-th look ends the wait. -/
def OpenUntil (o : Outlook) (name : String) (requested delta k : Nat) : Prop :=
  ∀ j, 0 < j → j < k → ∀ r, ¬ Stops name requested delta j (o.looks name j) r

/-- The tally after some rounds. -/
def tallyAfter (cfg : ProvisionerConfig) (start k : Nat) : Tally := ⟨start + k * cfg.pollInterval, k, k⟩

theorem isCancelledAt_eq_false {k : Nat} (h : ∀ j ∈ o.cancelledAt, k < j) : o.isCancelledAt k = false := by
  cases hc : o.cancelledAt with
  | none => simp [Outlook.isCancelledAt, hc]
  | some j => simp [Outlook.isCancelledAt, hc, h j hc]

theorem called_slept_tallyAfter (k : Nat) :
    ((tallyAfter cfg start k).slept cfg.pollInterval).called = tallyAfter cfg start (k + 1) := by
  simp only [tallyAfter, Tally.slept, Tally.called, Nat.succ_mul, Nat.add_assoc]

/-- A round in which the wait is not cancelled: a pause, and a look. -/
theorem watch_round {k : Nat} (hgo : ∀ j ∈ o.cancelledAt, k + 1 < j) :
    o.watch (await cfg name requested operation deadline (fuel + 1) k) (tallyAfter cfg start k) =
      o.watch (judged cfg name requested operation deadline fuel k (o.looks name (k + 1)))
        (tallyAfter cfg start (k + 1)) := by
  rw [await_succ, Outlook.watch_pause_bind (isCancelledAt_eq_false hgo), if_neg Bool.false_ne_true,
    Outlook.watch_getVolume_bind, called_slept_tallyAfter]
  rfl

/-- As long as the time is not up, a round in which nothing is settled leads to the next one. -/
theorem watch_rounds {k : Nat} (operation : String) (fuel : Nat) (hgo : ∀ j ∈ o.cancelledAt, k < j)
    (hopen : OpenUntil o name requested cfg.resizeDelta (k + 1))
    (htime : ∀ j, 0 < j → j ≤ k → start + j * cfg.pollInterval < deadline) :
    o.watch (await cfg name requested operation deadline (fuel + k) 0) (tallyAfter cfg start 0) =
      o.watch (await cfg name requested operation deadline fuel k) (tallyAfter cfg start k) := by
  induction k generalizing fuel with
  | zero => rfl
  | succ k ih =>
    have hfirst := ih (fuel + 1) (fun j hj => Nat.lt_of_succ_lt (hgo j hj))
      (fun j hpos hj => hopen j hpos (Nat.lt_succ_of_lt hj)) fun j hpos hj => htime j hpos (Nat.le_succ_of_le hj)
    have hearly : ¬ deadline ≤ (tallyAfter cfg start (k + 1)).time :=
      Nat.not_le.2 (htime (k + 1) (Nat.succ_pos k) (Nat.le_refl _))
    rw [Nat.add_succ, ← Nat.succ_add, hfirst, watch_round hgo,
      judged_of_not_stops (hopen (k + 1) (Nat.succ_pos k) (Nat.lt_succ_self _)), Outlook.watch_now_bind, if_neg hearly]

/-! ### The clock -/

/-- Before the last round the time is not up. -/
theorem time_lt_of_lt_rounds (hI : 0 < cfg.pollInterval) {j : Nat} (hpos : 0 < j) (hj : j < cfg.rounds) :
    j * cfg.pollInterval < cfg.convergenceTimeout := by
  have hlt : j < cfg.convergenceTimeout ⌈/⌉ cfg.pollInterval := (lt_max_iff.1 hj).resolve_left (by omega)
  rw [← Nat.not_le, ceilDiv_le_iff_le_mul hI, Nat.not_le] at hlt
  rwa [Nat.mul_comm]

/-- After the last round it is. -/
theorem timeout_le_rounds (hI : 0 < cfg.pollInterval) : cfg.convergenceTimeout ≤ cfg.rounds * cfg.pollInterval := by
  have hle : cfg.convergenceTimeout ⌈/⌉ cfg.pollInterval ≤ cfg.rounds := Nat.le_max_right _ _
  rw [Nat.mul_comm]
  exact (ceilDiv_le_iff_le_mul hI).1 hle

/-- A wait that fits the clock comes to no time that is too late for it. -/
theorem time_lt_clockLimit {start k : Nat} (hI : 0 < cfg.pollInterval) (hT : cfg.FitsClock start)
    (hk : k ≤ cfg.rounds) : start + k * cfg.pollInterval < clockLimit := by
  have hlate : k * cfg.pollInterval ≤ cfg.convergenceTimeout + cfg.pollInterval := by
    obtain _ | k := k
    · rw [Nat.zero_mul]
      exact Nat.zero_le _
    · rw [Nat.succ_mul]
      refine Nat.add_le_add_right ?_ _
      obtain rfl | hpos := Nat.eq_zero_or_pos k
      · rw [Nat.zero_mul]
        exact Nat.zero_le _
      · exact Nat.le_of_lt (time_lt_of_lt_rounds hI hpos hk)
  unfold ProvisionerConfig.FitsClock at hT
  omega

/-- A wait sets its deadline first. -/
theorem waitForConvergence_eq :
    waitForConvergence cfg name requested operation = Routine.now.bind fun start =>
      await cfg name requested operation (start + cfg.convergenceTimeout) maxAttempts 0 := rfl

section Rounds

variable {k : Nat} (operation) (start) (hI : 0 < cfg.pollInterval) (hN : cfg.rounds ≤ maxAttempts)

include hI hN

/-- A wait comes to each of its rounds, unless it is settled or cancelled before. -/
theorem watch_waitForConvergence (hk : k < cfg.rounds) (hgo : ∀ j ∈ o.cancelledAt, k < j)
    (hopen : OpenUntil o name requested cfg.resizeDelta (k + 1)) :
    ∃ fuel, o.watch (waitForConvergence cfg name requested operation) ⟨start, 0, 0⟩ =
      o.watch (await cfg name requested operation (start + cfg.convergenceTimeout) (fuel + 1) k)
        (tallyAfter cfg start k) := by
  have hstart : tallyAfter cfg start 0 = ⟨start, 0, 0⟩ := by simp [tallyAfter]
  obtain ⟨fuel, hfuel⟩ : ∃ fuel, maxAttempts = fuel + 1 + k := ⟨maxAttempts - k - 1, by omega⟩
  refine ⟨fuel, ?_⟩
  have hrounds := watch_rounds operation (fuel + 1) hgo hopen fun j hpos hj =>
    Nat.add_lt_add_left (time_lt_of_lt_rounds hI hpos (Nat.lt_of_le_of_lt hj hk)) start
  rw [waitForConvergence_eq, Outlook.watch_now_bind, hfuel, ← hrounds, hstart]

/-- A wait that is neither cancelled nor settled before a look comes to it. -/
theorem watch_look (hk : k < cfg.rounds) (hgo : ∀ j ∈ o.cancelledAt, k + 1 < j)
    (hopen : OpenUntil o name requested cfg.resizeDelta (k + 1)) :
    ∃ fuel, o.watch (waitForConvergence cfg name requested operation) ⟨start, 0, 0⟩ =
      o.watch (judged cfg name requested operation (start + cfg.convergenceTimeout) fuel k (o.looks name (k + 1)))
        (tallyAfter cfg start (k + 1)) := by
  obtain ⟨fuel, hwait⟩ := watch_waitForConvergence operation start hI hN hk
    (fun j hj => Nat.lt_of_succ_lt (hgo j hj)) hopen
  exact ⟨fuel, hwait.trans (watch_round hgo)⟩

/-! #### The three ends of a wait -/

theorem watch_of_stops {r : Except Fault Nat} (hk : k < cfg.rounds) (hgo : ∀ j ∈ o.cancelledAt, k + 1 < j)
    (hopen : OpenUntil o name requested cfg.resizeDelta (k + 1))
    (hstops : Stops name requested cfg.resizeDelta (k + 1) (o.looks name (k + 1)) r) :
    o.watch (waitForConvergence cfg name requested operation) ⟨start, 0, 0⟩ = (r, tallyAfter cfg start (k + 1)) := by
  obtain ⟨fuel, hlook⟩ := watch_look operation start hI hN hk hgo hopen
  exact hlook.trans (watch_judged_of_stops hstops)

theorem watch_of_openUntil (hgo : ∀ j ∈ o.cancelledAt, cfg.rounds < j)
    (hopen : OpenUntil o name requested cfg.resizeDelta (cfg.rounds + 1)) :
    o.watch (waitForConvergence cfg name requested operation) ⟨start, 0, 0⟩ =
      (.error (.timeout name cfg.rounds), tallyAfter cfg start cfg.rounds) := by
  obtain ⟨k, hk⟩ : ∃ k, cfg.rounds = k + 1 := Nat.exists_eq_add_one.2 (Nat.le_max_left 1 _)
  have hlate : start + cfg.convergenceTimeout ≤ (tallyAfter cfg start (k + 1)).time :=
    Nat.add_le_add_left (hk ▸ timeout_le_rounds hI) start
  obtain ⟨fuel, hlook⟩ := watch_look operation start hI hN (hk ▸ Nat.lt_succ_self k) (hk ▸ hgo)
    fun j hpos hj => hopen j hpos (by omega)
  rw [hlook, judged_of_not_stops (hopen (k + 1) (Nat.succ_pos k) (by omega)), Outlook.watch_now_bind, if_pos hlate,
    Outlook.watch_done, hk]

theorem watch_of_cancelledAt (hk : k < cfg.rounds) (hc : o.cancelledAt = some (k + 1))
    (hopen : OpenUntil o name requested cfg.resizeDelta (k + 1)) :
    o.watch (waitForConvergence cfg name requested operation) ⟨start, 0, 0⟩ =
      (.error (.cancelled name), tallyAfter cfg start k) := by
  have hcancelled : o.isCancelledAt ((tallyAfter cfg start k).sleeps + 1) = true := by
    simp [Outlook.isCancelledAt, hc, tallyAfter]
  obtain ⟨fuel, hwait⟩ := watch_waitForConvergence operation start hI hN hk (by simp [hc]) hopen
  rw [hwait, await_succ, Outlook.watch_pause_bind_of_cancelled hcancelled, if_pos rfl, Outlook.watch_done]

end Rounds

end Provisioning

open Provisioning

/-- **A wait is bounded and exact.**  It ends with the first look that settles it and the result of that look; if there
is none, with a timeout after its last round; and if it is cancelled before, with that pause.

The timeout is bounded by `hT`, so that the clock can tell the deadline and every time that it is asked for after it, as
the last clause says; beyond that there is no wait, since the program stops.  The assumption `hN` is made for the
statement, and nothing in the wait sees to it: looks are counted in 32 bits, and the rounds are taken to fit. -/
theorem wait_is_bounded (cfg : ProvisionerConfig) (hI : 0 < cfg.pollInterval) (hN : cfg.rounds ≤ maxAttempts)
    (name : String) (requested : Nat) (operation : String) (o : Outlook) (start : Nat) (hT : cfg.FitsClock start) :
    let ended := o.watch (waitForConvergence cfg name requested operation) ⟨start, 0, 0⟩
    (∀ k r, 0 < k → k ≤ cfg.rounds → (∀ j ∈ o.cancelledAt, k < j) → OpenUntil o name requested cfg.resizeDelta k →
      Stops name requested cfg.resizeDelta k (o.looks name k) r → ended = (r, tallyAfter cfg start k)) ∧
    ((∀ j ∈ o.cancelledAt, cfg.rounds < j) → OpenUntil o name requested cfg.resizeDelta (cfg.rounds + 1) →
      ended = (.error (.timeout name cfg.rounds), tallyAfter cfg start cfg.rounds)) ∧
    (∀ k, o.cancelledAt = some k → 0 < k → k ≤ cfg.rounds → OpenUntil o name requested cfg.resizeDelta k →
      ended = (.error (.cancelled name), tallyAfter cfg start (k - 1))) ∧
    start + cfg.convergenceTimeout < clockLimit ∧ ∀ k ≤ cfg.rounds, (tallyAfter cfg start k).time < clockLimit := by
  intro ended
  refine ⟨fun k r hpos hk => ?_, watch_of_openUntil operation start hI hN, fun k hc hpos hk => ?_,
    Nat.lt_of_le_of_lt (Nat.le_add_right _ _) hT, fun k hk => time_lt_clockLimit hI hT hk⟩
  · obtain ⟨k, rfl⟩ := Nat.exists_eq_add_one.2 hpos
    exact watch_of_stops operation start hI hN hk
  · obtain ⟨k, rfl⟩ := Nat.exists_eq_add_one.2 hpos
    exact watch_of_cancelledAt operation start hI hN hk hc

namespace Sample

/-- A volume of which nothing is reported yet. -/
def pending : LogicalVolume := .request "pvc-1" ⟨"pvc-1", .thin, ⟨"1Gi"⟩, "vg-1", none, none⟩

/-- The volume as it was asked for. -/
def ready : LogicalVolume := { pending with status := some ⟨some .created, none, some ⟨"1Gi"⟩⟩ }

/-- The volume after it has failed. -/
def broken (reason : Option String) : LogicalVolume := { pending with status := some ⟨some .failed, reason, none⟩ }

/-- Nothing is reported of the volume before the third look. -/
def unhurried (v : LogicalVolume) (cancelledAt : Option Nat) : Outlook :=
  { looks := fun _ k => .ok (some (if k < 3 then pending else v)), cancelledAt }

/-- A wait for so many milliseconds, in intervals of 500. -/
def patience (ms : Nat) : ProvisionerConfig := { convergenceTimeout := ms }

/-- What comes of waiting for the volume for so many milliseconds. -/
def awaited (ms : Nat) (v : LogicalVolume) (cancelledAt : Option Nat) : Except Fault Nat × Tally :=
  (unhurried v cancelledAt).watch (waitForConvergence (patience ms) "pvc-1" 1073741824 "create_volume") ⟨0, 0, 0⟩

theorem openUntil_unhurried {k : Nat} (hk : k ≤ 3) (v : LogicalVolume) (cancelledAt : Option Nat) :
    Provisioning.OpenUntil (unhurried v cancelledAt) "pvc-1" 1073741824 (patience 0).resizeDelta k := by
  intro j _ hj r hstops
  have hlook : (unhurried v cancelledAt).looks "pvc-1" j = .ok (some pending) :=
    congrArg (fun v => Except.ok (some v)) (if_pos (Nat.lt_of_lt_of_le hj hk))
  rw [hlook] at hstops
  cases hstops with
  | failed hstatus _ _ => cases hstatus
  | unparsable hstatus _ _ _ => cases hstatus
  | converged hstatus _ _ _ => cases hstatus

end Sample

/-- The volume is awaited for three rounds, for two that are too few, and until a cancellation before the second.  A
volume that has failed by the third look is told of with the reason that is reported, if there is one. -/
theorem wait_is_bounded_unhurried :
    Sample.awaited 1200 Sample.ready none = (.ok 3, ⟨1500, 3, 3⟩) ∧
      Sample.awaited 1200 (Sample.broken (some "no space")) none =
        (.error (.volumeFailed "pvc-1" "no space"), ⟨1500, 3, 3⟩) ∧
      Sample.awaited 1200 (Sample.broken none) none = (.error (.volumeFailed "pvc-1" ""), ⟨1500, 3, 3⟩) ∧
      Sample.awaited 800 Sample.ready none = (.error (.timeout "pvc-1" 2), ⟨1000, 2, 2⟩) ∧
      Sample.awaited 800 Sample.ready (some 2) = (.error (.cancelled "pvc-1"), ⟨500, 1, 1⟩) := by
  have htwo : (Sample.patience 800).rounds = 2 := by decide
  have hthird (v : LogicalVolume) : (Sample.unhurried v none).looks "pvc-1" 3 = .ok (some v) := rfl
  -- a wait with three rounds ends as the third look at the volume says
  have hsettled (v : LogicalVolume) (r : Except Fault Nat)
      (hstops : Stops "pvc-1" 1073741824 (Sample.patience 1200).resizeDelta 3 (.ok (some v)) r) :
      Sample.awaited 1200 v none = (r, ⟨1500, 3, 3⟩) := by
    obtain ⟨hsettled, -⟩ := wait_is_bounded (Sample.patience 1200) (by decide) (by decide) "pvc-1" 1073741824
      "create_volume" (Sample.unhurried v none) 0 (by decide)
    exact hsettled 3 r (by decide) (by decide) (by simp [Sample.unhurried])
      (Sample.openUntil_unhurried (Nat.le_refl 3) v none) (hthird v ▸ hstops)
  obtain ⟨-, htimeout, -⟩ := wait_is_bounded (Sample.patience 800) (by decide) (by decide) "pvc-1" 1073741824
    "create_volume" (Sample.unhurried Sample.ready none) 0 (by decide)
  obtain ⟨-, -, hcancelled, -⟩ := wait_is_bounded (Sample.patience 800) (by decide) (by decide) "pvc-1" 1073741824
    "create_volume" (Sample.unhurried Sample.ready (some 2)) 0 (by decide)
  refine ⟨hsettled _ _ ?_, hsettled _ _ (.failed rfl rfl (.reported rfl)),
    hsettled _ _ (.failed rfl rfl (.unreported rfl)), ?_, ?_⟩
  · have hbytes : (⟨"1Gi"⟩ : Quantity).bytes = .ok 1073741824 := by decide +kernel
    exact .converged rfl rfl (.reported rfl hbytes) (by decide)
  · rw [htwo] at htimeout
    exact htimeout (by simp [Sample.unhurried]) (Sample.openUntil_unhurried (Nat.le_refl 3) _ none)
  · exact hcancelled 2 rfl (by decide) (by decide) (Sample.openUntil_unhurried (by decide) _ (some 2))

end LocalVolumes
