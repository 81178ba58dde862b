import LocalVolumes.Proofs.Interference

/-!
# LocalVolumes.Proofs.Failures — routines whose calls fail in certain ways

A routine can be run with a note of the calls that failed and of what they failed with; nothing else about it changes.
`Attains` is what a routine comes to if all failures are of some kind, while others do no more than it relies on.  Its
rules follow the shape of routines, and it holds of every run in which no other failure is noted.
-/

namespace LocalVolumes

/-- The call that an answer tells the failure of, if it does. -/
def Effect.failures : (e : Effect) → e.Answer → List (Call × Fault)
  | .call c, .error e => [(c, e)]
  | .call _, .ok _ => []
  | .now, _ => []
  | .pause _, _ => []
  | .record _, _ => []

namespace Routine

variable {α β : Type} {R : Rely} {fine : Call × Fault → Prop} {post : α → Cluster → Prop} {s s' : Cluster}

/-! ### Notes of failures -/

/-- A routine that ends with the calls that failed, after some that failed before. -/
def noteFailures : Routine α → List (Call × Fault) → Routine (α × List (Call × Fault))
  | .done a, failed => .done (a, failed)
  | .ask e next, failed => .ask e (fun r => (next r).noteFailures (failed ++ e.failures r))

/-- A routine that ends with the calls that failed. -/
def withFailures (t : Routine α) : Routine (α × List (Call × Fault)) := t.noteFailures []

/-- What was noted stays noted. -/
theorem ends_noteFailures (t : Routine α) (failed : List (Call × Fault)) :
    (t.noteFailures failed).Ends (fun x => failed ⊆ x.2) := by
  suffices h : ∀ before, failed ⊆ before → (t.noteFailures before).Ends (fun x => failed ⊆ x.2) from
    h failed (List.Subset.refl _)
  induction t with
  | done a => exact fun before h => h
  | ask e next ih => exact fun before h r => ih r _ (List.subset_append_of_subset_left _ h)

/-! ### What a routine comes to -/

/-- What a routine comes to if all failures are fine, while others do what it relies on. -/
def Attains (R : Rely) (fine : Call × Fault → Prop) (post : α → Cluster → Prop) : Routine α → Cluster → Prop
  | .done a, s => ∀ s₁, R.may s s₁ → post a s₁
  | .ask e next, s => ∀ s₁ r s₂, R.may s s₁ → e.Served s₁ r s₂ → (∀ f ∈ e.failures r, fine f) →
      Attains R fine post (next r) s₂

theorem Attains.of_may {t : Routine α} (h : ∀ s₁, R.may s s₁ → t.Attains R fine post s₁) :
    t.Attains R fine post s := by
  cases t with
  | done a => exact fun s₁ hr => h s₁ hr s₁ (R.refl s₁)
  | ask e next => exact fun s₁ r s₂ hr => h s₁ hr s₁ r s₂ (R.refl s₁)

/-- What others do in time does not matter. -/
theorem Attains.may {t : Routine α} (h : t.Attains R fine post s) (hr : R.may s s') : t.Attains R fine post s' := by
  cases t with
  | done a => exact fun s₁ hr' => h s₁ (R.trans hr hr')
  | ask e next => exact fun s₁ r s₂ hr' => h s₁ r s₂ (R.trans hr hr')

theorem Attains.mono {post' : α → Cluster → Prop} {t : Routine α} (h : t.Attains R fine post s)
    (hp : ∀ a s, post a s → post' a s) : t.Attains R fine post' s := by
  induction t generalizing s with
  | done a => exact fun s₁ hr => hp a s₁ (h s₁ hr)
  | ask e next ih => exact fun s₁ r s₂ hr hs hf => ih r (h s₁ r s₂ hr hs hf)

theorem Attains.done {a : α} (h : ∀ s₁, R.may s s₁ → post a s₁) : (done a).Attains R fine post s := h

/-- One piece of work after another: the second starts from what the first comes to. -/
theorem Attains.bind {t : Routine β} {f : β → Routine α} {q : β → Cluster → Prop} (h : t.Attains R fine q s)
    (hf : ∀ b s₁, q b s₁ → (f b).Attains R fine post s₁) : (t.bind f).Attains R fine post s := by
  induction t generalizing s with
  | done b => exact .of_may fun s₁ hr => hf b s₁ (h s₁ hr)
  | ask e next ih => exact fun s₁ r s₂ hr hs hfine => ih r (h s₁ r s₂ hr hs hfine)

/-- A call and what follows it; if it fails, it does so in a way that is fine. -/
theorem Attains.call {c : Call} {f : c.Result → Routine α}
    (h : ∀ s₁ r s₂, R.may s s₁ → s₁.Serves c r s₂ → (∀ e, r = .error e → fine (c, e)) →
      (f r).Attains R fine post s₂) : ((Routine.call c).bind f).Attains R fine post s := by
  intro s₁ r s₂ hr hs hfine
  refine h s₁ r s₂ hr hs ?_
  rintro e rfl
  exact hfine (c, e) (List.mem_singleton_self _)

/-- Something is counted, and what follows it. -/
theorem Attains.record {x : Sample} {f : Unit → Routine α} (h : (f ()).Attains R fine post s) :
    ((Routine.record x).bind f).Attains R fine post s := by
  rintro s₁ u s₂ hr rfl -
  exact h.may hr

/-! ### Runs -/

theorem Ends.progress {P : α → Prop} {t u : Routine α} (h : t.Ends P) (hp : t.Progress R s u s') : u.Ends P := by
  induction hp with
  | refl => exact h
  | disturb _ _ ih => exact ih
  | move _ _ ih => exact ih _

theorem Progress.may_of_done {a : α} {u : Routine α} (h : (done a).Progress R s u s') : R.may s s' := by
  induction h with
  | refl => exact R.refl s
  | disturb _ hr ih => exact R.trans ih hr
  | move hp _ _ => exact absurd hp.eq_done (by simp)

/-- **A run in which all failures are fine comes to what is attained.** -/
theorem Attains.progress {t : Routine α} {failed failed' : List (Call × Fault)} {a : α}
    (h : t.Attains R fine post s) (hp : (t.noteFailures failed).Progress R s (.done (a, failed')) s')
    (hfine : ∀ f ∈ failed', fine f) : post a s' := by
  induction t generalizing s failed with
  | done b =>
    obtain ⟨rfl, -⟩ := Prod.mk.inj (done.inj hp.eq_done)
    exact h s' hp.may_of_done
  | ask e next ih =>
    rcases hp.cases_ask with ⟨he, -⟩ | ⟨s₁, r, s₂, hr, hs, hp⟩
    · cases he
    · have hnoted : failed ++ e.failures r ⊆ failed' := (ends_noteFailures _ _).progress hp
      exact ih r (h s₁ r s₂ hr hs fun f hf => hfine f (hnoted (List.mem_append_right _ hf))) hp

end Routine

end LocalVolumes
