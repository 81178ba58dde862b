import LocalVolumes.Proofs.Convergence
import LocalVolumes.Proofs.Materialization
import LocalVolumes.Proofs.Provisioning
import LocalVolumes.Proofs.Quantity

/-!
# LocalVolumes.Proofs.Growth — what a request to grow a volume asks for

A request to grow a volume reads it, and all that it may put in its place is the same volume with the size that was
asked for.  Two tests tell whether the volume is large enough as it is: its size is past the one that was asked for by
more than the tolerance, or differs from it by less.  One size passes between them: it is past the one that was asked
for by the tolerance exactly.  A volume of that size is asked to shrink, and any other one that is replaced to grow.
-/

namespace LocalVolumes

/-! ### What a routine may ask for -/

/-- An effect that is no call but a look at a volume of a name. -/
def Effect.LooksAt (name : String) : Effect → Prop
  | .call (.getVolume n) => n = name
  | .call _ => False
  | _ => True

namespace Routine

variable {α β : Type} {P : Effect → Prop}

/-- Whatever the answers, all that a routine asks for is of a kind. -/
def AsksOnly (P : Effect → Prop) : Routine α → Prop
  | .done _ => True
  | .ask e next => P e ∧ ∀ r, (next r).AsksOnly P

theorem AsksOnly.bind {t : Routine β} {f : β → Routine α} (h : t.AsksOnly P) (hf : ∀ b, (f b).AsksOnly P) :
    (t.bind f).AsksOnly P := by
  induction t with
  | done b => exact hf b
  | ask e next ih => exact ⟨h.1, fun r => ih r (h.2 r)⟩

theorem AsksOnly.mono {Q : Effect → Prop} {t : Routine α} (h : t.AsksOnly P) (hp : ∀ e, P e → Q e) : t.AsksOnly Q := by
  induction t with
  | done a => trivial
  | ask e next ih => exact ⟨hp e h.1, fun r => ih r (h.2 r)⟩

theorem AsksOnly.leads {t u : Routine α} (h : t.AsksOnly P) (hl : Leads t u) : u.AsksOnly P := by
  induction hl with
  | refl => exact h
  | step r _ ih => exact ih.2 r

/-- One effect and what follows it. -/
theorem AsksOnly.perform_bind {e : Effect} {f : e.Answer → Routine α} (h : P e) (hf : ∀ r, (f r).AsksOnly P) :
    ((perform e).bind f).AsksOnly P := ⟨h, hf⟩

/-- What is left of one effect and what follows it is all of it, or is left after the answer. -/
theorem Leads.cases_perform {e : Effect} {f : e.Answer → Routine α} {u : Routine α} (h : Leads ((perform e).bind f) u) :
    u = (perform e).bind f ∨ ∃ r, Leads (f r) u := by
  induction h with
  | refl => exact .inl rfl
  | step r _ ih =>
    rcases ih with he | ⟨r', hl⟩
    · cases he
      exact .inr ⟨r, .refl⟩
    · exact .inr ⟨r', hl.step r⟩

theorem Leads.trans {t u v : Routine α} (h : Leads t u) (h' : Leads u v) : Leads t v := by
  induction h' with
  | refl => exact h
  | step r _ ih => exact ih.step r

theorem leads_after (n : Nat) (s : Cluster) (t : Routine α) : Leads t (t.after n s).2 := by
  induction n generalizing s t with
  | zero => exact .refl
  | succ n ih =>
    cases t with
    | done a => exact .refl
    | ask e next =>
      cases e with
      | call c => exact (Leads.step _ .refl).trans (ih ..)
      | now => exact (Leads.step _ .refl).trans (ih ..)
      | pause ms => exact (Leads.step _ .refl).trans (ih ..)
      | record x => exact (Leads.step _ .refl).trans (ih ..)

end Routine

namespace Provisioning

open Routine

variable {cfg : ProvisionerConfig} {r : ExpandRequest} {v w : LogicalVolume}

/-! ### Sizes -/

/-- A volume that is not large enough is below the size that was asked for, or past it by the tolerance exactly. -/
theorem lt_iff_of_not_isLargeEnough {requested actual delta : Nat} (hactual : actual < sizeLimit)
    (h : isLargeEnough requested actual delta = false) : actual < requested ↔ actual ≠ requested + delta := by
  simp only [isLargeEnough, sizesEqual, Bool.or_eq_false_iff, decide_eq_false_iff_not] at h
  omega

/-- A volume takes the place of one that was read: it has the size of the request, which is past the size that was
reported unless that is past it by the tolerance exactly. -/
structure Resizes (cfg : ProvisionerConfig) (r : ExpandRequest) (v w : LogicalVolume) : Prop where
  replaces : w = { v with spec := { v.spec with size := ⟨toString r.bytes⟩ } }
  requested : w.requestedBytes = .ok r.bytes
  grows : ∃ actual, v.actualBytes = .ok actual ∧ (actual < r.bytes ↔ actual ≠ r.bytes + cfg.resizeDelta)

/-! ### The request -/

/-- An effect that replaces a volume only by one of a kind. -/
def Replaces (P : LogicalVolume → Prop) : Effect → Prop
  | .call (.replaceVolume w) => P w
  | _ => True

variable {P : LogicalVolume → Prop}

theorem replaces_of_looksAt {e : Effect} {name : String} (h : e.LooksAt name) : Replaces P e := by
  cases e with
  | call c =>
    cases c with
    | replaceVolume w => exact h.elim
    | _ => trivial
  | now => trivial
  | pause ms => trivial
  | record x => trivial

theorem looksAt_waitForConvergence (name : String) (requested : Nat) (operation : String) :
    (waitForConvergence cfg name requested operation).AsksOnly (Effect.LooksAt name) := by
  rw [waitForConvergence_eq]
  refine .perform_bind trivial fun start => await_induction (fun _ => trivial) ?_ ?_ ?_ ?_
  · exact fun _ _ _ => .perform_bind trivial fun _ => trivial
  · exact fun _ hf => .perform_bind trivial hf
  · exact fun _ hf => .perform_bind rfl hf
  · exact fun _ hf => .perform_bind trivial hf

theorem looksAt_counted {β : Type} (name operation : String) (start : Nat) (a : Except Fault β) :
    (counted operation start a).AsksOnly (Effect.LooksAt name) :=
  .perform_bind trivial fun _ => .perform_bind trivial fun _ => trivial

theorem asksOnly_waitForConvergence (name : String) (requested : Nat) (operation : String) :
    (waitForConvergence cfg name requested operation).AsksOnly (Replaces P) :=
  (looksAt_waitForConvergence name requested operation).mono fun _ => replaces_of_looksAt

theorem asksOnly_counted {β : Type} (operation : String) (start : Nat) (a : Except Fault β) :
    (counted operation start a).AsksOnly (Replaces P) :=
  (looksAt_counted "" operation start a).mono fun _ => replaces_of_looksAt

theorem asksOnly_checkRoom (v : LogicalVolume) (growth : Nat) : (checkRoom v growth).AsksOnly (Replaces P) := by
  unfold checkRoom
  split
  · trivial
  · exact .perform_bind trivial fun g => by cases g <;> trivial

theorem asksOnly_grow (h : P { v with spec := { v.spec with size := ⟨toString r.bytes⟩ } }) :
    (grow cfg r v).AsksOnly (Replaces P) := by
  refine .perform_bind h fun a => ?_
  cases a with
  | error e => trivial
  | ok _ => exact (asksOnly_waitForConvergence ..).bind fun a => by cases a <;> trivial

/-- What a request to grow a volume does with a volume that it has found. -/
def expandFound (cfg : ProvisionerConfig) (r : ExpandRequest) (v : LogicalVolume) :
    Routine (Except Fault ExpandedVolume) :=
  match v.actualBytes with
  | .error cause => .done (.error cause.toFault)
  | .ok actual =>
    if isLargeEnough r.bytes actual cfg.resizeDelta then .done (.ok ⟨actual, !r.block⟩)
    else (checkRoom v (r.bytes - actual)).bind fun
      | .error e => .done (.error e)
      | .ok () => grow cfg r v

/-- A request to grow a volume fails at once, or it looks at the volume. -/
theorem expand_eq (h : r.id ≠ "") :
    expand cfg r = (Routine.call (.getVolume r.id)).bind fun
      | .error e => .done (.error e)
      | .ok none => .done (.error (.resourceNotFound LogicalVolume.kind r.id))
      | .ok (some v) => expandFound cfg r v := by
  rw [expand, if_neg h]
  rfl

/-- What follows the look at a volume replaces it only by the size that was asked for. -/
theorem asksOnly_expandFound (hr : r.bytes < sizeLimit) (v : LogicalVolume) :
    (expandFound cfg r v).AsksOnly (Replaces (Resizes cfg r v)) := by
  unfold expandFound
  split
  · trivial
  · next actual hactual =>
    split
    · trivial
    · next hsmall =>
      refine (asksOnly_checkRoom ..).bind fun a => ?_
      cases a with
      | error e => trivial
      | ok u =>
        refine asksOnly_grow ⟨rfl, Quantity.bytes_toString hr, actual, hactual, ?_⟩
        exact lt_iff_of_not_isLargeEnough (Quantity.bytesOrZero_lt hactual) (by simpa using hsmall)

end Provisioning

open Routine Provisioning

/-- **A request to grow a volume asks for a shrink of one size only.**  Whatever it is answered, before it asks for a
replacement it has read the volume, and the replacement has the size of the request, which is past the reported one
unless that is past it by the tolerance exactly. -/
theorem growth_is_asked_for (cfg : ProvisionerConfig) (r : ExpandRequest) (hr : r.bytes < sizeLimit)
    (w : LogicalVolume) (next : Except Fault LogicalVolume → Routine (Except Fault ExpandedVolume))
    (hask : Leads (expandVolume cfg r) (.ask (.call (.replaceVolume w)) next)) :
    ∃ v found, Leads (expandVolume cfg r) (.ask (.call (.getVolume r.id)) found) ∧
      Leads (found (.ok (some v))) (.ask (.call (.replaceVolume w)) next) ∧ Resizes cfg r v w := by
  have hnone {t : Routine (Except Fault ExpandedVolume)} (ht : t.AsksOnly (Replaces fun _ => False)) :
      ¬ Leads t (.ask (.call (.replaceVolume w)) next) := fun hl => (ht.leads hl).1
  rw [expandVolume, measured_eq] at hask ⊢
  rcases hask.cases_perform with he | ⟨start, hask⟩
  · cases he
  · by_cases hid : r.id = ""
    · rw [expand, if_pos hid] at hask
      exact absurd hask (hnone (asksOnly_counted ..))
    · rw [expand_eq hid] at hask ⊢
      rw [bind_assoc] at hask
      rcases hask.cases_perform with he | ⟨x, hafter⟩
      · cases he
      · match x with
        | .error e => exact absurd hafter (hnone (asksOnly_counted ..))
        | .ok none => exact absurd hafter (hnone (asksOnly_counted ..))
        | .ok (some v) =>
          refine ⟨v, _, .step start .refl, hafter, ?_⟩
          exact (((asksOnly_expandFound hr v).bind fun a => asksOnly_counted ..).leads hafter).1

namespace Sample

/-- A cluster with the volume, of which a size is reported. -/
def allotted (size : String) : Cluster :=
  ({} : Cluster).intervene (.putVolume { pending with status := some ⟨some .created, none, some ⟨size⟩⟩ })

/-- The volume is read with the size that is reported. -/
theorem exists_allotted {size : String} {bytes : Nat} (h : (⟨size⟩ : Quantity).bytes = .ok bytes) :
    ∃ v, ((allotted size).answer (.getVolume "pvc-1")).1 = .ok (some v) ∧ v.actualBytes = .ok bytes := ⟨_, rfl, h⟩

/-- A request to grow the volume to so many bytes. -/
def growth (bytes : Nat) : ExpandRequest := ⟨"pvc-1", bytes, false⟩

/-- The volume that a routine asks to be stored next. -/
def replacement? : Routine (Except Fault ExpandedVolume) → Option LogicalVolume
  | .ask (.call (.replaceVolume w)) _ => some w
  | _ => none

theorem exists_of_replacement? {t : Routine (Except Fault ExpandedVolume)} {w : LogicalVolume}
    (h : replacement? t = some w) : ∃ next, t = .ask (.call (.replaceVolume w)) next := by
  unfold replacement? at h
  split at h
  · next w' next =>
    obtain rfl := Option.some.inj h
    exact ⟨next, rfl⟩
  · cases h

/-- What a request asks for after a look at the volume, where its size differs. -/
theorem exists_replacement (size : String) (bytes : Nat)
    (h : ((replacement? ((expandVolume {} (growth bytes)).after 2 (allotted size)).2).any
      fun w => w.requestedBytes.toOption == some bytes) = true) :
    ∃ w next, ((expandVolume {} (growth bytes)).after 2 (allotted size)).2 = .ask (.call (.replaceVolume w)) next ∧
      w.requestedBytes = .ok bytes := by
  obtain ⟨w, hw, hbytes⟩ := (Option.any_eq_true _ _).1 h
  obtain ⟨next, hnext⟩ := exists_of_replacement? hw
  exact ⟨w, next, hnext, Except.eq_ok_of_toOption (beq_iff_eq.1 hbytes)⟩

end Sample

/-- A volume of one gibibyte is asked to have two. -/
theorem growth_is_asked_for_double :
    ∃ v w next, Leads (expandVolume {} (Sample.growth 2147483648)) (.ask (.call (.replaceVolume w)) next) ∧
      Resizes {} (Sample.growth 2147483648) v w := by
  obtain ⟨w, next, hnext, -⟩ := Sample.exists_replacement "1Gi" 2147483648 (by decide +kernel)
  have hask : Leads (expandVolume {} (Sample.growth 2147483648)) (.ask (.call (.replaceVolume w)) next) :=
    hnext ▸ leads_after 2 (Sample.allotted "1Gi") _
  obtain ⟨v, -, -, -, hresizes⟩ := growth_is_asked_for {} (Sample.growth 2147483648) (by decide) w next hask
  exact ⟨v, w, next, hask, hresizes⟩

/-- A volume that is 32 mebibytes past the gibibyte that is asked for is asked to shrink to it. -/
theorem shrink_is_asked_for :
    ∃ v w next, ((Sample.allotted "1056Mi").answer (.getVolume "pvc-1")).1 = .ok (some v) ∧
      v.actualBytes = .ok 1107296256 ∧
      ((expandVolume {} (Sample.growth 1073741824)).after 2 (Sample.allotted "1056Mi")).2 =
        .ask (.call (.replaceVolume w)) next ∧
      w.requestedBytes = .ok 1073741824 := by
  have hsize : (⟨"1056Mi"⟩ : Quantity).bytes = .ok 1107296256 := by decide +kernel
  obtain ⟨v, hv, hactual⟩ := Sample.exists_allotted hsize
  obtain ⟨w, next, hnext, hbytes⟩ := Sample.exists_replacement "1056Mi" 1073741824 (by decide +kernel)
  exact ⟨v, w, next, hv, hactual, hnext, hbytes⟩

end LocalVolumes
