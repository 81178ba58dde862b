import LocalVolumes.Proofs.Cluster.Calls
import LocalVolumes.Routine
import Mathlib.Logic.Function.Basic
import Mathlib.Logic.Relation

/-!
# LocalVolumes.Proofs.Interference — routines among others

Between any two effects of a routine other actors may change the cluster.  `Keeps` is what a routine promises under
such interference: as long as others do no more than it relies on, it preserves an invariant, each of its steps does
no more than it guarantees, and it ends with what is asked of its result.  The rules follow the shape of routines.
In a `World` any number of routines run side by side, step by step; each may be given up at any point.
-/

namespace LocalVolumes

/-- What may come of an effect on a cluster.  The time and the cancellation of a pause are arbitrary. -/
def Effect.Served (s : Cluster) : (e : Effect) → e.Answer → Cluster → Prop
  | .call c, r, s' => s.Serves c r s'
  | .now, _, s' => s' = s
  | .pause _, _, s' => s' = s
  | .record _, _, s' => s' = s

/-- What others may do to a cluster between two steps. -/
structure Rely where
  may : Cluster → Cluster → Prop
  refl (s : Cluster) : may s s
  trans {s s' s'' : Cluster} : may s s' → may s' s'' → may s s''

namespace Routine

variable {α β : Type}

/-- A routine that starts at a cluster, while others do what it relies on: its steps preserve the invariant and do
what it guarantees, and its result is as asked for whenever it is looked at. -/
def Keeps (inv : Cluster → Prop) (R : Rely) (guar : Routine α → Cluster → Cluster → Prop)
    (post : α → Cluster → Prop) : Routine α → Cluster → Prop
  | .done a, s => ∀ s₁, R.may s s₁ → inv s₁ → post a s₁
  | .ask e next, s => ∀ s₁ r s₂, R.may s s₁ → inv s₁ → e.Served s₁ r s₂ →
      inv s₂ ∧ guar (.ask e next) s₁ s₂ ∧ Keeps inv R guar post (next r) s₂

variable {inv : Cluster → Prop} {R : Rely} {guar : Routine α → Cluster → Cluster → Prop}
  {post : α → Cluster → Prop} {s s' : Cluster}

theorem Keeps.of_may {t : Routine α}
    (h : ∀ s₁, R.may s s₁ → inv s₁ → Keeps inv R guar post t s₁) : Keeps inv R guar post t s := by
  cases t with
  | done a => exact fun s₁ hr hi => h s₁ hr hi s₁ (R.refl s₁) hi
  | ask e next => exact fun s₁ r s₂ hr hi hs => h s₁ hr hi s₁ r s₂ (R.refl s₁) hi hs

/-- What others do in time does not matter. -/
theorem Keeps.may {t : Routine α} (h : Keeps inv R guar post t s) (hr : R.may s s') :
    Keeps inv R guar post t s' := by
  cases t with
  | done a => exact fun s₁ hr' => h s₁ (R.trans hr hr')
  | ask e next => exact fun s₁ r s₂ hr' => h s₁ r s₂ (R.trans hr hr')

theorem Keeps.mono {guar' : Routine α → Cluster → Cluster → Prop} {post' : α → Cluster → Prop} {t : Routine α}
    (h : Keeps inv R guar post t s) (hg : ∀ u s s', guar u s s' → guar' u s s')
    (hp : ∀ a s, inv s → post a s → post' a s) : Keeps inv R guar' post' t s := by
  induction t generalizing s with
  | done a => exact fun s₁ hr hi => hp a s₁ hi (h s₁ hr hi)
  | ask e next ih =>
    intro s₁ r s₂ hr hi hs
    obtain ⟨hi₂, hg₂, hk⟩ := h s₁ r s₂ hr hi hs
    exact ⟨hi₂, hg _ _ _ hg₂, ih r hk⟩

theorem Keeps.done {a : α} (h : ∀ s₁, R.may s s₁ → inv s₁ → post a s₁) :
    Keeps inv R guar post (.done a) s := h

/-- One piece of work after another: the second starts from what the first ends with. -/
theorem Keeps.bind {t : Routine β} {f : β → Routine α} {q : β → Cluster → Prop}
    (h : Keeps inv R (fun u => guar (u.bind f)) q t s)
    (hf : ∀ b s₁, inv s₁ → q b s₁ → Keeps inv R guar post (f b) s₁) :
    Keeps inv R guar post (t.bind f) s := by
  induction t generalizing s with
  | done b => exact .of_may fun s₁ hr hi => hf b s₁ hi (h s₁ hr hi)
  | ask e next ih =>
    intro s₁ r s₂ hr hi hs
    obtain ⟨hi₂, hg₂, hk⟩ := h s₁ r s₂ hr hi hs
    exact ⟨hi₂, hg₂, ih r hk⟩

/-- A call and what follows it. -/
theorem Keeps.call {c : Call} {f : c.Result → Routine α}
    (h : ∀ s₁ r s₂, R.may s s₁ → inv s₁ → s₁.Serves c r s₂ →
      inv s₂ ∧ guar ((call c).bind f) s₁ s₂ ∧ Keeps inv R guar post (f r) s₂) :
    Keeps inv R guar post ((Routine.call c).bind f) s := h

/-- A call and nothing after it. -/
theorem Keeps.call_done {c : Call} {guar : Routine c.Result → Cluster → Cluster → Prop}
    {post : c.Result → Cluster → Prop}
    (h : ∀ s₁ r s₂, R.may s s₁ → inv s₁ → s₁.Serves c r s₂ →
      inv s₂ ∧ guar (Routine.call c) s₁ s₂ ∧ ∀ s₃, R.may s₂ s₃ → inv s₃ → post r s₃) :
    Keeps inv R guar post (Routine.call c) s := h

/-- A look at the clock and what follows it. -/
theorem Keeps.now {f : Nat → Routine α} (hg : ∀ s, guar (now.bind f) s s)
    (h : ∀ time, Keeps inv R guar post (f time) s) : Keeps inv R guar post (now.bind f) s := by
  rintro s₁ time s₂ hr hi rfl
  exact ⟨hi, hg s₂, (h time).may hr⟩

/-- A pause and what follows it. -/
theorem Keeps.pause {ms : Nat} {f : Bool → Routine α} (hg : ∀ s, guar ((pause ms).bind f) s s)
    (h : ∀ cancelled, Keeps inv R guar post (f cancelled) s) : Keeps inv R guar post ((pause ms).bind f) s := by
  rintro s₁ cancelled s₂ hr hi rfl
  exact ⟨hi, hg s₂, (h cancelled).may hr⟩

/-- Something is counted, and what follows it. -/
theorem Keeps.record {x : Sample} {f : Unit → Routine α} (hg : ∀ s, guar ((record x).bind f) s s)
    (h : Keeps inv R guar post (f ()) s) : Keeps inv R guar post ((record x).bind f) s := by
  rintro s₁ u s₂ hr hi rfl
  exact ⟨hi, hg s₂, h.may hr⟩

/-- An invariant that others keep holds of what a routine ends with. -/
theorem Keeps.holds {t : Routine α} (h : Keeps inv R guar post t s) (hi : inv s)
    (hR : ∀ s s', inv s → R.may s s' → inv s') :
    Keeps (fun _ => True) R guar (fun a s => inv s ∧ post a s) t s := by
  induction t generalizing s with
  | done a => exact fun s₁ hr _ => ⟨hR s s₁ hi hr, h s₁ hr (hR s s₁ hi hr)⟩
  | ask e next ih =>
    intro s₁ r s₂ hr _ hs
    obtain ⟨hi₂, hg₂, hk⟩ := h s₁ r s₂ hr (hR s s₁ hi hr) hs
    exact ⟨True.intro, hg₂, ih r hk hi₂⟩

/-- Nothing is asked of a result. -/
abbrev noMatter {α : Type} (_ : α) (_ : Cluster) : Prop := True

/-- A routine of which nothing is asked. -/
theorem Keeps.trivial (t : Routine α) (hi : ∀ s, inv s) (hg : ∀ u s s', guar u s s') (hp : ∀ a s, post a s) :
    Keeps inv R guar post t s := by
  induction t generalizing s with
  | done a => exact fun s₁ _ _ => hp a s₁
  | ask e next ih => exact fun s₁ r s₂ _ _ _ => ⟨hi s₂, hg _ _ _, ih r⟩

/-! ### What is left of a routine -/

/-- Whatever the answers, the routine ends with a result of some kind. -/
def Ends (P : α → Prop) : Routine α → Prop
  | .done a => P a
  | .ask _ next => ∀ r, Ends P (next r)

theorem Ends.bind {P : β → Prop} {Q : α → Prop} {t : Routine β} {f : β → Routine α} (h : t.Ends P)
    (hf : ∀ b, P b → (f b).Ends Q) : (t.bind f).Ends Q := by
  induction t with
  | done b => exact hf b h
  | ask e next ih => exact fun r => ih r (h r)

theorem Ends.trivial (t : Routine α) : t.Ends fun _ => True := by
  induction t with
  | done a => exact True.intro
  | ask e next ih => exact fun r => ih r

/-- What is left of a routine after some of its effects were answered. -/
inductive Leads (t : Routine α) : Routine α → Prop
  | refl : Leads t t
  | step {e : Effect} {next : e.Answer → Routine α} (r : e.Answer) : Leads t (.ask e next) → Leads t (next r)

theorem Ends.leads {P : α → Prop} {t u : Routine α} (h : t.Ends P) (hl : Leads t u) : u.Ends P := by
  induction hl with
  | refl => exact h
  | step r _ ih => exact ih r

/-- A routine that is not done. -/
def IsUnderWay (t : Routine α) : Prop := ∃ e next, t = .ask e next

/-- Every step is a step of what is left of the routine. -/
theorem Keeps.leads {t : Routine α} (h : Keeps inv R guar post t s) :
    Keeps inv R (fun u s s' => guar u s s' ∧ Leads t u ∧ u.IsUnderWay) post t s := by
  suffices hu : ∀ u s, Leads t u → Keeps inv R guar post u s →
      Keeps inv R (fun u s s' => guar u s s' ∧ Leads t u ∧ u.IsUnderWay) post u s from hu t s .refl h
  intro u
  induction u with
  | done a => exact fun s _ hk => hk
  | ask e next ih =>
    intro s hl hk s₁ r s₂ hr hi hs
    obtain ⟨hi₂, hg₂, hk₂⟩ := hk s₁ r s₂ hr hi hs
    exact ⟨hi₂, ⟨hg₂, hl, e, next, rfl⟩, ih r s₂ (hl.step r) hk₂⟩

/-- The cluster, and what is left of a routine, after so many effects that the cluster answers at once. -/
def after : Nat → Cluster → Routine α → Cluster × Routine α
  | n + 1, s, .ask (.call c) next => after n (s.answer c).2 (next (s.answer c).1)
  | n + 1, s, .ask .now next => after n s (next 0)
  | n + 1, s, .ask (.pause _) next => after n s (next false)
  | n + 1, s, .ask (.record _) next => after n s (next ())
  | _, s, t => (s, t)

/-! ### Runs of one routine -/

/-- What may come of a routine and a cluster while others do what is relied on. -/
inductive Progress (R : Rely) (t : Routine α) (s : Cluster) : Routine α → Cluster → Prop
  | refl : Progress R t s t s
  | disturb {u : Routine α} {s₁ s₂ : Cluster} : Progress R t s u s₁ → R.may s₁ s₂ → Progress R t s u s₂
  | move {e : Effect} {next : e.Answer → Routine α} {r : e.Answer} {s₁ s₂ : Cluster} :
    Progress R t s (.ask e next) s₁ → e.Served s₁ r s₂ → Progress R t s (next r) s₂

theorem Keeps.progress {t u : Routine α} (h : Keeps inv R guar post t s)
    (hi : inv s) (hR : ∀ s s', inv s → R.may s s' → inv s') (hp : Progress R t s u s') :
    inv s' ∧ Keeps inv R guar post u s' := by
  induction hp with
  | refl => exact ⟨hi, h⟩
  | disturb _ hr ih => exact ⟨hR _ _ ih.1 hr, ih.2.may hr⟩
  | move _ hs ih =>
    obtain ⟨hi₂, -, hk⟩ := ih.2 _ _ _ (R.refl _) ih.1 hs
    exact ⟨hi₂, hk⟩

theorem Progress.head {e : Effect} {next : e.Answer → Routine α} {r : e.Answer} {u : Routine α} {s₁ : Cluster}
    (hs : e.Served s r s₁) (h : Progress R (next r) s₁ u s') : Progress R (.ask e next) s u s' := by
  induction h with
  | refl => exact .move .refl hs
  | disturb _ hr ih => exact ih.disturb hr
  | move _ hs' ih => exact ih.move hs'

/-- A run of a routine that asks for something has not begun, or goes on from the answer. -/
theorem Progress.cases_ask {e : Effect} {next : e.Answer → Routine α} {u : Routine α}
    (h : Progress R (.ask e next) s u s') :
    (u = .ask e next ∧ R.may s s') ∨
      ∃ s₁ r s₂, R.may s s₁ ∧ e.Served s₁ r s₂ ∧ Progress R (next r) s₂ u s' := by
  induction h with
  | refl => exact .inl ⟨rfl, R.refl s⟩
  | disturb _ hr ih =>
    rcases ih with ⟨rfl, hr'⟩ | ⟨s₁, r, s₂, hr₁, hs, hp⟩
    · exact .inl ⟨rfl, R.trans hr' hr⟩
    · exact .inr ⟨s₁, r, s₂, hr₁, hs, hp.disturb hr⟩
  | move _ hs ih =>
    rcases ih with ⟨he, hr'⟩ | ⟨s₁, r, s₂, hr₁, hs₁, hp⟩
    · cases he
      exact .inr ⟨_, _, _, hr', hs, .refl⟩
    · exact .inr ⟨s₁, r, s₂, hr₁, hs₁, hp.move hs⟩

/-- A run of a routine that is done stays there. -/
theorem Progress.eq_done {a : α} {u : Routine α} (h : Progress R (.done a) s u s') : u = .done a := by
  induction h with
  | refl => rfl
  | disturb _ _ ih => exact ih
  | move _ _ ih => simp at ih

end Routine

/-! ### Worlds -/

/-- A cluster and the routines that are under way, by some index. -/
structure World (ι α : Type) where
  cluster : Cluster
  tasks : ι → Option (Routine α)

namespace World

variable {ι α : Type}

/-- A world in which no routine is under way. -/
def idle (s : Cluster) : World ι α := ⟨s, fun _ => none⟩

/-- The invariant holds and every routine keeps to its promises. -/
structure Sound (inv : Cluster → Prop) (rely : ι → Rely) (guar : ι → Routine α → Cluster → Cluster → Prop)
    (post : ι → α → Cluster → Prop) (w : World ι α) : Prop where
  holds : inv w.cluster
  keeps (i : ι) (t : Routine α) : w.tasks i = some t → t.Keeps inv (rely i) (guar i) (post i) w.cluster

variable {others : Cluster → Cluster → Prop} {work : ι → Routine α} {inv : Cluster → Prop} {rely : ι → Rely}
  {guar : ι → Routine α → Cluster → Cluster → Prop} {post : ι → α → Cluster → Prop} {w w' : World ι α}

theorem Sound.idle {s : Cluster} (h : inv s) : Sound inv rely guar post (idle s : World ι α) :=
  ⟨h, fun _ _ ht => by simp [World.idle] at ht⟩

variable [DecidableEq ι]

/-- One step of a world: others act, a routine is started, makes a step, or is gone, at its end or before. -/
inductive Step (others : Cluster → Cluster → Prop) (work : ι → Routine α) : World ι α → World ι α → Prop
  | disturb {w : World ι α} {s' : Cluster} :
    others w.cluster s' → Step others work w { w with cluster := s' }
  | start {w : World ι α} {i : ι} :
    w.tasks i = none → Step others work w { w with tasks := Function.update w.tasks i (some (work i)) }
  | move {w : World ι α} {i : ι} {e : Effect} {next : e.Answer → Routine α} {r : e.Answer} {s' : Cluster} :
    w.tasks i = some (.ask e next) → e.Served w.cluster r s' →
      Step others work w ⟨s', Function.update w.tasks i (some (next r))⟩
  | leave {w : World ι α} {i : ι} :
    Step others work w { w with tasks := Function.update w.tasks i none }

/-- A step of a world from where something holds. -/
def StepFrom (good : World ι α → Prop) (others : Cluster → Cluster → Prop) (work : ι → Routine α)
    (w w' : World ι α) : Prop := Step others work w w' ∧ good w

/-- Routines fit together if what others do and what each guarantees is what the rest rely on. -/
structure Fits (others : Cluster → Cluster → Prop) (work : ι → Routine α) (inv : Cluster → Prop)
    (rely : ι → Rely) (guar : ι → Routine α → Cluster → Cluster → Prop) (post : ι → α → Cluster → Prop) :
    Prop where
  disturbed {s s' : Cluster} : inv s → others s s' → inv s' ∧ ∀ i, (rely i).may s s'
  moved {i j : ι} {t : Routine α} {s s' : Cluster} :
    j ≠ i → inv s → inv s' → guar i t s s' → (rely j).may s s'
  started (i : ι) (s : Cluster) : inv s → (work i).Keeps inv (rely i) (guar i) (post i) s

theorem Sound.step (hf : Fits others work inv rely guar post) (h : Sound inv rely guar post w)
    (hs : Step others work w w') : Sound inv rely guar post w' := by
  cases hs with
  | disturb ho =>
    obtain ⟨hi, hr⟩ := hf.disturbed h.holds ho
    exact ⟨hi, fun i t ht => (h.keeps i t ht).may (hr i)⟩
  | @start i hidle =>
    refine ⟨h.holds, fun j t ht => ?_⟩
    by_cases hj : j = i
    · subst hj
      simp only [Function.update_self, Option.some.injEq] at ht
      exact ht ▸ hf.started j _ h.holds
    · exact h.keeps j t (by simpa [hj] using ht)
  | @move i e next r s' hi hserved =>
    obtain ⟨hinv, hg, hk⟩ := h.keeps i _ hi _ _ _ ((rely i).refl _) h.holds hserved
    refine ⟨hinv, fun j t ht => ?_⟩
    by_cases hj : j = i
    · subst hj
      simp only [Function.update_self, Option.some.injEq] at ht
      exact ht ▸ hk
    · exact (h.keeps j t (by simpa [hj] using ht)).may (hf.moved hj h.holds hinv hg)
  | @leave i =>
    refine ⟨h.holds, fun j t ht => ?_⟩
    by_cases hj : j = i
    · subst hj
      simp at ht
    · exact h.keeps j t (by simpa [hj] using ht)

section Steps

variable {R : Rely} (ho : ∀ s s', others s s' → R.may s s')
  (hserved : ∀ (e : Effect) (r : e.Answer) (s s' : Cluster), e.Served s r s' → R.may s s')

include ho hserved

/-- The cluster of a world changes as others and effects may change it. -/
theorem Step.may (hs : Step others work w w') : R.may w.cluster w'.cluster := by
  cases hs with
  | disturb hd => exact ho _ _ hd
  | start hidle => exact R.refl _
  | move hi hs => exact hserved _ _ _ _ hs
  | leave => exact R.refl _

theorem may_of_steps (hr : Relation.ReflTransGen (Step others work) w w') : R.may w.cluster w'.cluster := by
  induction hr with
  | refl => exact R.refl _
  | tail _ hs ih => exact R.trans ih (hs.may ho hserved)

/-- A routine that is under way all the time goes on by itself, among the others and the rest of the routines. -/
theorem progress_of_steps {i : ι} {t : Routine α} (hi : w.tasks i = some t) (hi' : w'.tasks i ≠ none)
    (hr : Relation.ReflTransGen (StepFrom (fun w => w.tasks i ≠ none) others work) w w') :
    ∃ u, w'.tasks i = some u ∧ t.Progress R w.cluster u w'.cluster := by
  induction hr with
  | refl => exact ⟨t, hi, .refl⟩
  | @tail w₁ w₂ _ hstep ih =>
    obtain ⟨hs, hunder⟩ := hstep
    obtain ⟨u, hu, hp⟩ := ih hunder
    have hmay : R.may w₁.cluster w₂.cluster := hs.may ho hserved
    cases hs with
    | disturb hd => exact ⟨u, hu, hp.disturb hmay⟩
    | @start j hidle =>
      have hij : i ≠ j := fun h => hunder (h ▸ hidle)
      exact ⟨u, by simpa [hij] using hu, hp⟩
    | @move j e next r s' hj hs =>
      by_cases hij : i = j
      · subst hij
        obtain rfl := Option.some.inj (hu.symm.trans hj)
        exact ⟨next r, Function.update_self .., hp.move hs⟩
      · exact ⟨u, by simpa [hij] using hu, hp.disturb hmay⟩
    | @leave j =>
      by_cases hij : i = j
      · subst hij
        simp at hi'
      · exact ⟨u, by simpa [hij] using hu, hp⟩

end Steps

/-- **Invariants of worlds**: routines that fit together preserve the invariant in every order of their steps. -/
theorem Sound.reaches (hf : Fits others work inv rely guar post) (h : Sound inv rely guar post w)
    (hr : Relation.ReflTransGen (Step others work) w w') : Sound inv rely guar post w' := by
  induction hr with
  | refl => exact h
  | tail _ hs ih => exact ih.step hf hs

/-! ### Worlds with one routine -/

section Lone

variable (others : Cluster → Cluster → Prop) (work : Unit → Routine α)

/-- A world with one routine. -/
def lone (s : Cluster) (t : Routine α) : World Unit α := ⟨s, fun _ => some t⟩

theorem update_lone (s : Cluster) (t t' : Routine α) : Function.update (lone s t).tasks () (some t') = fun _ => some t' :=
  funext fun _ => Function.update_self ..

theorem lone_start (s : Cluster) : Step others work (idle s) (lone s (work ())) := by
  have hstep : Step others work (idle s)
      { idle s with tasks := Function.update (idle s : World Unit α).tasks () (some (work ())) } := .start rfl
  rwa [show Function.update (idle s).tasks () (some (work ())) = fun _ => some (work ()) from
    funext fun _ => Function.update_self ..] at hstep

theorem lone_move {s s' : Cluster} {e : Effect} {next : e.Answer → Routine α} {r : e.Answer} (h : e.Served s r s') :
    Step others work (lone s (.ask e next)) (lone s' (next r)) := by
  have hstep : Step others work (lone s (.ask e next))
      ⟨s', Function.update (lone s (.ask e next)).tasks () (some (next r))⟩ := .move rfl h
  rwa [update_lone] at hstep

theorem lone_answer (s : Cluster) (c : Call) (f : c.Result → Routine α) :
    Step others work (lone s ((Routine.call c).bind f)) (lone (s.answer c).2 (f (s.answer c).1)) :=
  lone_move others work (e := .call c) (.inl rfl)

/-- A routine that is answered by the cluster alone comes to where it is after so many answers. -/
theorem lone_after (n : Nat) (s : Cluster) (t : Routine α) :
    Relation.ReflTransGen (StepFrom (fun w => w.tasks () ≠ none) others work) (lone s t)
      (lone (t.after n s).1 (t.after n s).2) := by
  have hunder (s : Cluster) (t : Routine α) : (lone s t).tasks () ≠ none := Option.some_ne_none t
  induction n generalizing s t with
  | zero => exact .refl
  | succ n ih =>
    cases t with
    | done a => exact .refl
    | ask e next =>
      cases e with
      | call c => exact .head ⟨lone_move others work (.inl rfl), hunder _ _⟩ (ih _ _)
      | now => exact .head ⟨lone_move others work rfl, hunder _ _⟩ (ih _ _)
      | pause ms => exact .head ⟨lone_move others work rfl, hunder _ _⟩ (ih _ _)
      | record x => exact .head ⟨lone_move others work rfl, hunder _ _⟩ (ih _ _)

end Lone

end World

end LocalVolumes
