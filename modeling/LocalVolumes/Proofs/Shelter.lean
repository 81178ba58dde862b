import LocalVolumes.Proofs.Cluster.Undisturbed
import LocalVolumes.Proofs.Simulation

/-!
# LocalVolumes.Proofs.Shelter — routines of which some parts go undisturbed

`Keeps` says what a routine promises wherever others act and whichever of its calls fail.  Some promises need more: as
long as certain parts of the routine are under way, others stay out and no call fails on its way.  `Course` is a run of
that kind, with the parts as a parameter, and `Carries` what a routine comes to in such runs.  A promise that needs no
shelter holds with any.
-/

namespace LocalVolumes

/-- The cluster answers a call as it would if no failure were planned. -/
def Cluster.Grants (s : Cluster) (c : Call) (r : c.Result) (s' : Cluster) : Prop :=
  ∃ t fs, { s with failures := [] }.answer c = (r, t) ∧ s' = { t with failures := fs }

/-- No call fails on its way. -/
def Effect.Granted (s : Cluster) : (e : Effect) → e.Answer → Cluster → Prop
  | .call c, r, s' => s.Grants c r s'
  | .now, _, _ => True
  | .pause _, _, _ => True
  | .record _, _, _ => True

namespace Routine

variable {α β : Type}

/-! ### Runs with sheltered parts -/

/-- What may come of a routine and a cluster while others do what is relied on, except that nobody acts and no call
fails on its way while what is left of the routine is sheltered. -/
inductive Course (sheltered : Routine α → Prop) (R : Rely) (t : Routine α) (s : Cluster) : Routine α → Cluster → Prop
  | refl : Course sheltered R t s t s
  | disturb {u : Routine α} {s₁ s₂ : Cluster} :
    Course sheltered R t s u s₁ → ¬ sheltered u → R.may s₁ s₂ → Course sheltered R t s u s₂
  | move {e : Effect} {next : e.Answer → Routine α} {r : e.Answer} {s₁ s₂ : Cluster} :
    Course sheltered R t s (.ask e next) s₁ → e.Served s₁ r s₂ → (sheltered (.ask e next) → e.Granted s₁ r s₂) →
      Course sheltered R t s (next r) s₂

variable {sheltered : Routine α → Prop} {R : Rely} {post : α → Cluster → Prop} {s s' : Cluster}

/-- A run with sheltered parts is a run. -/
theorem Course.progress {t u : Routine α} (h : Course sheltered R t s u s') : Progress R t s u s' := by
  induction h with
  | refl => exact .refl
  | disturb _ _ hr ih => exact ih.disturb hr
  | move _ hs _ ih => exact ih.move hs

theorem Course.head {e : Effect} {next : e.Answer → Routine α} {r : e.Answer} {u : Routine α} {s₁ : Cluster}
    (hs : e.Served s r s₁) (hg : e.Granted s r s₁) (h : Course sheltered R (next r) s₁ u s') :
    Course sheltered R (.ask e next) s u s' := by
  induction h with
  | refl => exact .move .refl hs fun _ => hg
  | disturb _ hfree hr ih => exact ih.disturb hfree hr
  | move _ hs' hg' ih => exact ih.move hs' hg'

/-! ### What a routine comes to -/

/-- A routine that starts at a cluster ends with what is asked of its result, if its parts are sheltered. -/
def Carries (sheltered : Routine α → Prop) (R : Rely) (post : α → Cluster → Prop) : Routine α → Cluster → Prop
  | .done a, s => ∀ s₁, R.may s s₁ → post a s₁
  | .ask e next, s => ∀ s₁ r s₂, R.may s s₁ → e.Served s₁ r s₂ →
      (sheltered (.ask e next) → s₁ = s ∧ e.Granted s₁ r s₂) → Carries sheltered R post (next r) s₂

theorem Carries.may {t : Routine α} (h : t.Carries sheltered R post s) (hr : R.may s s') (hfree : ¬ sheltered t) :
    t.Carries sheltered R post s' := by
  cases t with
  | done a => exact fun s₁ hr' => h s₁ (R.trans hr hr')
  | ask e next => exact fun s₁ r s₂ hr' hs _ => h s₁ r s₂ (R.trans hr hr') hs fun hsh => absurd hsh hfree

/-- **What a routine carries out it comes to in every run.** -/
theorem Carries.course {t u : Routine α} (h : t.Carries sheltered R post s) (hc : Course sheltered R t s u s') :
    u.Carries sheltered R post s' := by
  induction hc with
  | refl => exact h
  | disturb _ hfree hr ih => exact ih.may hr hfree
  | move _ hs hg ih => exact ih _ _ _ (R.refl _) hs fun hsh => ⟨rfl, hg hsh⟩

/-- The result of a run. -/
theorem Carries.result {t : Routine α} {a : α} (h : t.Carries sheltered R post s)
    (hc : Course sheltered R t s (.done a) s') : post a s' := h.course hc s' (R.refl s')

/-- What needs no shelter. -/
theorem Keeps.carries {guar : Routine α → Cluster → Cluster → Prop} {t : Routine α}
    (h : t.Keeps (fun _ => True) R guar post s) : t.Carries sheltered R post s := by
  induction t generalizing s with
  | done a => exact fun s₁ hr => h s₁ hr True.intro
  | ask e next ih => exact fun s₁ r s₂ hr hs _ => ih r (h s₁ r s₂ hr True.intro hs).2.2

theorem Carries.mono {post' : α → Cluster → Prop} {t : Routine α} (h : t.Carries sheltered R post s)
    (hp : ∀ a s, post a s → post' a s) : t.Carries sheltered R post' s := by
  induction t generalizing s with
  | done a => exact fun s₁ hr => hp a s₁ (h s₁ hr)
  | ask e next ih => exact fun s₁ r s₂ hr hs hsh => ih r (h s₁ r s₂ hr hs hsh)

/-- More shelter does no harm. -/
theorem Carries.shelter {sheltered' : Routine α → Prop} {t : Routine α} (h : t.Carries sheltered R post s)
    (hsh : ∀ u, sheltered u → sheltered' u) : t.Carries sheltered' R post s := by
  induction t generalizing s with
  | done a => exact h
  | ask e next ih => exact fun s₁ r s₂ hr hs hg => ih r (h s₁ r s₂ hr hs fun hu => hg (hsh _ hu))

/-- Only what is left of a routine needs shelter, and only as long as it is under way. -/
theorem Carries.leads {t : Routine α} (h : t.Carries (fun _ => True) R post s) :
    t.Carries (fun u => Leads t u ∧ u.IsUnderWay) R post s := by
  suffices hu : ∀ u s, Leads t u → u.Carries (fun _ => True) R post s →
      u.Carries (fun u => Leads t u ∧ u.IsUnderWay) R post s from hu t s .refl h
  intro u
  induction u with
  | done a => exact fun s _ hc => hc
  | ask e next ih =>
    intro s hl hc s₁ r s₂ hr hs hg
    exact ih r s₂ (hl.step r) (hc s₁ r s₂ hr hs fun _ => hg ⟨hl, e, next, rfl⟩)

/-- One piece of work after another: the second starts from what the first ends with. -/
theorem Carries.bind {t : Routine β} {f : β → Routine α} {q : β → Cluster → Prop}
    (h : t.Carries (fun u => sheltered (u.bind f)) R q s)
    (hf : ∀ b s₁, q b s₁ → (f b).Carries sheltered R post s₁) : (t.bind f).Carries sheltered R post s := by
  induction t generalizing s with
  | done b => exact hf b s (h s (R.refl s))
  | ask e next ih => exact fun s₁ r s₂ hr hs hg => ih r (h s₁ r s₂ hr hs hg)

/-- A call and what follows it. -/
theorem Carries.call {c : Call} {f : c.Result → Routine α}
    (h : ∀ s₁ r s₂, R.may s s₁ → s₁.Serves c r s₂ → (f r).Carries sheltered R post s₂) :
    ((Routine.call c).bind f).Carries sheltered R post s := fun s₁ r s₂ hr hs _ => h s₁ r s₂ hr hs

/-- A call that is sheltered, and what follows it. -/
theorem Carries.granted {c : Call} {f : c.Result → Routine α}
    (h : ∀ r s', s.Grants c r s' → (f r).Carries (fun _ => True) R post s') :
    ((Routine.call c).bind f).Carries (fun _ => True) R post s := by
  intro s₁ r s₂ _ _ hg
  obtain ⟨rfl, hgranted⟩ := hg trivial
  exact h r s₂ hgranted

/-- A look at the clock and what follows it. -/
theorem Carries.now {f : Nat → Routine α} (h : ∀ time s₁, R.may s s₁ → (f time).Carries sheltered R post s₁) :
    (now.bind f).Carries sheltered R post s := by
  rintro s₁ time s₂ hr rfl -
  exact h time s₂ hr

end Routine

/-- **A simulated run in which nobody intervenes and no failure is planned is a run with whatever shelter.** -/
theorem Simulation.course_run {α : Type} (sheltered : Routine α → Prop) (R : Rely) (signal : StopSignal)
    (t : Routine α) {s : Simulation} (hs : s.cluster.failures = []) (n : Nat) :
    let r := run signal [] t s n
    t.Course sheltered R s.cluster (.done r.1) r.2.cluster := by
  induction t generalizing s n with
  | done a => exact .refl
  | ask e next ih =>
    cases e with
    | call c =>
      have hgranted : s.cluster.Grants c (s.cluster.answer c).1 (s.cluster.answer c).2 := by
        have he : { s.cluster with failures := [] } = s.cluster := by rw [← hs]
        exact ⟨_, (s.cluster.answer c).2.failures, by rw [he], rfl⟩
      exact .head (.inl rfl) hgranted
        (ih _ (s := { s with cluster := (s.cluster.answer c).2 }) (Cluster.failures_answer hs c) n)
    | now => exact .head rfl trivial (ih _ hs n)
    | record x => exact .head rfl trivial (ih _ (s := { s with metrics := s.metrics.record x }) hs n)
    | pause ms =>
      simp only [run]
      split
      · exact .head rfl trivial (ih _ hs n)
      · exact .head rfl trivial (ih _ (s := s.sleep [] (n + 1) ms) hs (n + 1))

end LocalVolumes
