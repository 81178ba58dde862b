import LocalVolumes.Proofs.Cluster.States
import LocalVolumes.Proofs.Cluster.Undisturbed
import LocalVolumes.Proofs.Interference
import LocalVolumes.Simulation

/-!
# LocalVolumes.Proofs.Simulation — a simulated run is a run of a world

The simulation runs one routine and lets others act during its pauses.  Each of its runs is one of the runs of a
world with that routine: what holds in every world holds of the simulation.
-/

namespace LocalVolumes

variable {ι α : Type} [DecidableEq ι] {others : Cluster → Cluster → Prop} {work : ι → Routine α}

/-! ### Steps of a simulated run -/

/-- A routine that makes no pause. -/
def Routine.Prompt : Routine α → Prop
  | .done _ => True
  | .ask e next => (∀ ms, e ≠ .pause ms) ∧ ∀ r, (next r).Prompt

theorem Routine.Prompt.bind {β : Type} {t : Routine β} {f : β → Routine α} (h : t.Prompt)
    (hf : ∀ b, (f b).Prompt) : (t.bind f).Prompt := by
  induction t with
  | done b => exact hf b
  | ask e next ih => exact ⟨h.1, fun r => ih r (h.2 r)⟩

theorem Routine.Prompt.call (c : Call) : (Routine.call c).Prompt :=
  ⟨fun ms he => by simp at he, fun _ => trivial⟩

theorem Routine.Prompt.call_bind {c : Call} {f : c.Result → Routine α} (hf : ∀ r, (f r).Prompt) :
    ((Routine.call c).bind f).Prompt := (Prompt.call c).bind hf

namespace Simulation

variable {β : Type} {signal : StopSignal} {events : List (Nat × Happening)} {s : Simulation} {n : Nat}

@[simp] theorem run_done (a : α) : run signal events (.done a) s n = (a, s) := rfl

@[simp] theorem run_call (c : Call) :
    run signal events (Routine.call c) s n =
      ((s.cluster.answer c).1, { s with cluster := (s.cluster.answer c).2 }) := rfl

@[simp] theorem run_call_bind (c : Call) (f : c.Result → Routine α) :
    run signal events ((Routine.call c).bind f) s n =
      run signal events (f (s.cluster.answer c).1) { s with cluster := (s.cluster.answer c).2 } n := rfl

/-- Only pauses are numbered, so what comes after a routine without pauses goes on with the same number. -/
theorem run_bind {t : Routine β} (h : t.Prompt) (f : β → Routine α) :
    run signal events (t.bind f) s n =
      run signal events (f (run signal events t s n).1) (run signal events t s n).2 n := by
  induction t generalizing s with
  | done b => rfl
  | ask e next ih =>
    cases e with
    | call c => exact ih _ (h.2 _)
    | now => exact ih _ (h.2 _)
    | record x => exact ih _ (h.2 _)
    | pause ms => exact absurd rfl (h.1 ms)

/-- What is planned for pauses does not matter to a routine that makes none. -/
theorem run_of_prompt {t : Routine α} (h : t.Prompt) : run signal events t s n = run signal [] t s n := by
  induction t generalizing s with
  | done a => rfl
  | ask e next ih =>
    cases e with
    | call c => exact ih _ (h.2 _)
    | now => exact ih _ (h.2 _)
    | record x => exact ih _ (h.2 _)
    | pause ms => exact absurd rfl (h.1 ms)

/-- A run ends as the routine does. -/
theorem run_of_ends {P : α → Prop} {t : Routine α} (signal : StopSignal) (events : List (Nat × Happening))
    (s : Simulation) (n : Nat) (h : t.Ends P) : P (run signal events t s n).1 := by
  induction t generalizing s n with
  | done a => exact h
  | ask e next ih =>
    cases e with
    | call c => exact ih _ _ _ (h _)
    | now => exact ih _ _ _ (h _)
    | record x => exact ih _ _ _ (h _)
    | pause ms =>
      simp only [run]
      split
      · exact ih _ _ _ (h _)
      · exact ih _ _ _ (h _)

theorem arises_happen (h : s.cluster.Arises) (x : Happening) : (s.happen x).cluster.Arises := by
  cases x with
  | intervene i => exact h.intervene i
  | advance ms => exact h
  | cancel => exact h
  | stop => exact h

/-- A run comes from states of a cluster to states of a cluster. -/
theorem arises_run {t : Routine α} (h : s.cluster.Arises) : (run signal events t s n).2.cluster.Arises := by
  induction t generalizing s n with
  | done a => exact h
  | ask e next ih =>
    cases e with
    | call c => exact ih _ (h.answer c)
    | now => exact ih _ h
    | record x => exact ih _ h
    | pause ms =>
      simp only [run]
      split
      · exact ih _ h
      · refine ih _ ?_
        exact List.foldlRecOn (motive := fun s : Simulation => s.cluster.Arises) _ _ h
          fun s hs x _ => arises_happen hs x

theorem mem_of_plannedFor {events : List (Nat × Happening)} {n : Nat} {x : Happening}
    (h : x ∈ Simulation.plannedFor events n) : (n, x) ∈ events := by
  simp only [Simulation.plannedFor, List.mem_map, List.mem_filter, beq_iff_eq] at h
  obtain ⟨⟨m, y⟩, ⟨hm, rfl⟩, rfl⟩ := h
  exact hm

/-- Nobody intervenes. -/
def Unattended (events : List (Nat × Happening)) : Prop := ∀ n i, (n, Happening.intervene i) ∉ events

theorem cluster_sleep (h : Unattended events) (ms : Nat) : (s.sleep events n ms).cluster = s.cluster := by
  refine List.foldlRecOn (motive := fun u : Simulation => u.cluster = s.cluster) _ _ rfl fun u hu x hx => ?_
  cases x with
  | intervene i => exact absurd (mem_of_plannedFor hx) (h n i)
  | advance ms => exact hu
  | cancel => exact hu
  | stop => exact hu

/-- A simulated run in which nobody intervenes is a run of the routine, whatever is relied on. -/
theorem progress_run (R : Rely) (signal : StopSignal) (t : Routine α) (s : Simulation) (n : Nat) :
    t.Progress R s.cluster (.done (run signal [] t s n).1) (run signal [] t s n).2.cluster := by
  induction t generalizing s n with
  | done a => exact .refl
  | ask e next ih =>
    cases e with
    | call c => exact .head (.inl rfl) (ih _ { s with cluster := (s.cluster.answer c).2 } n)
    | now => exact .head rfl (ih _ s n)
    | record x => exact .head rfl (ih _ { s with metrics := s.metrics.record x } n)
    | pause ms =>
      simp only [run]
      split
      · exact .head rfl (ih _ s n)
      · exact .head rfl (ih _ (s.sleep [] (n + 1) ms) (n + 1))

end Simulation

/-! ### Runs that nobody disturbs -/

/-- What a routine comes to if nobody else acts on the cluster. -/
def Routine.Alone (post : α → Cluster → Prop) : Routine α → Cluster → Prop
  | .done a, s => post a s
  | .ask (.call c) next, s => (next (s.answer c).1).Alone post (s.answer c).2
  | .ask .now next, s => ∀ t, (next t).Alone post s
  | .ask (.pause _) next, s => ∀ cancelled, (next cancelled).Alone post s
  | .ask (.record _) next, s => (next ()).Alone post s

namespace Routine.Alone

variable {β : Type} {post : α → Cluster → Prop} {s : Cluster}

theorem mono {post' : α → Cluster → Prop} {t : Routine α} (h : t.Alone post s) (hp : ∀ a s, post a s → post' a s) :
    t.Alone post' s := by
  induction t generalizing s with
  | done a => exact hp a s h
  | ask e next ih =>
    cases e with
    | call c => exact ih _ h
    | now => exact fun t => ih t (h t)
    | pause ms => exact fun b => ih b (h b)
    | record x => exact ih _ h

theorem bind {t : Routine β} {f : β → Routine α} {q : β → Cluster → Prop} (h : t.Alone q s)
    (hf : ∀ b s', q b s' → (f b).Alone post s') : (t.bind f).Alone post s := by
  induction t generalizing s with
  | done b => exact hf b s h
  | ask e next ih =>
    cases e with
    | call c => exact ih _ h
    | now => exact fun t => ih t (h t)
    | pause ms => exact fun b => ih b (h b)
    | record x => exact ih _ h

theorem call_bind {c : Call} {f : c.Result → Routine α} {r : c.Result} {s' : Cluster} (hc : s.answer c = (r, s'))
    (h : (f r).Alone post s') : ((Routine.call c).bind f).Alone post s := by
  have he : ((Routine.call c).bind f).Alone post s = (f (s.answer c).1).Alone post (s.answer c).2 := rfl
  rw [he, hc]
  exact h

/-- A call that is answered where no failure is planned. -/
theorem serve_bind {c : Call} {f : c.Result → Routine α} (hf : s.failures = [])
    (h : ∀ r s', s.answer c = (r, s') → s'.failures = [] → (f r).Alone post s') :
    ((Routine.call c).bind f).Alone post s := h _ _ rfl (Cluster.failures_answer hf c)

theorem now_bind {f : Nat → Routine α} (h : ∀ time, (f time).Alone post s) : (Routine.now.bind f).Alone post s := h

theorem pause_bind {ms : Nat} {f : Bool → Routine α} (h : ∀ cancelled, (f cancelled).Alone post s) :
    ((Routine.pause ms).bind f).Alone post s := h

/-- A routine of which nothing is asked but what any result has. -/
theorem of_forall (t : Routine α) (h : ∀ a s, post a s) : t.Alone post s := by
  induction t generalizing s with
  | done a => exact h a s
  | ask e next ih =>
    cases e with
    | call c => exact ih _
    | now => exact fun t => ih t
    | pause ms => exact fun b => ih b
    | record x => exact ih _

/-- A simulated run in which nobody intervenes, though time may pass and the routine may be cancelled. -/
theorem run_unattended {t : Routine α} {s : Simulation} {signal : StopSignal} {events : List (Nat × Happening)} {n : Nat}
    (he : Simulation.Unattended events) (h : t.Alone post s.cluster) :
    post (Simulation.run signal events t s n).1 (Simulation.run signal events t s n).2.cluster := by
  induction t generalizing s n with
  | done a => exact h
  | ask e next ih =>
    cases e with
    | call c => exact ih _ (s := { s with cluster := (s.cluster.answer c).2 }) h
    | now => exact ih _ (h _)
    | record x => exact ih _ (s := { s with metrics := s.metrics.record x }) h
    | pause ms =>
      simp only [Simulation.run]
      split
      · exact ih _ (h _)
      · exact ih _ (s := s.sleep events (n + 1) ms) (by rw [Simulation.cluster_sleep he]; exact h _)

theorem run {t : Routine α} {s : Simulation} {signal : StopSignal} {n : Nat} (h : t.Alone post s.cluster) :
    post (Simulation.run signal [] t s n).1 (Simulation.run signal [] t s n).2.cluster :=
  run_unattended (fun _ _ he => by simp at he) h

end Routine.Alone

/-! ### Runs of a world -/

/-- Others may intervene as it is planned. -/
def Allows (others : Cluster → Cluster → Prop) (events : List (Nat × Happening)) : Prop :=
  ∀ n i, (n, Happening.intervene i) ∈ events → ∀ s : Cluster, others s (s.intervene i)

namespace World

variable {w : World ι α} {i : ι} {events : List (Nat × Happening)}

theorem reaches_happenings (work : ι → Routine α) {good : World ι α → Prop} {s : Simulation} (hs : List Happening)
    (h : ∀ i, Happening.intervene i ∈ hs → ∀ s : Cluster, others s (s.intervene i))
    (hgood : ∀ c, good { w with cluster := c }) (hw : w.cluster = s.cluster) :
    Relation.ReflTransGen (StepFrom good others work) w
      { w with cluster := (hs.foldl Simulation.happen s).cluster } := by
  induction hs generalizing s w with
  | nil =>
    rw [List.foldl_nil, ← hw]
  | cons x hs ih =>
    have hrest : ∀ i, Happening.intervene i ∈ hs → ∀ s : Cluster, others s (s.intervene i) :=
      fun i hi => h i (List.mem_cons_of_mem _ hi)
    rw [List.foldl_cons]
    cases x with
    | intervene i =>
      have hstep : StepFrom good others work w { w with cluster := s.cluster.intervene i } := by
        rw [← hw]
        exact ⟨.disturb (h i List.mem_cons_self w.cluster), hgood w.cluster⟩
      refine .head hstep ?_
      exact ih (s := s.happen (.intervene i)) (w := { w with cluster := s.cluster.intervene i }) hrest hgood rfl
    | advance ms => exact ih hrest hgood hw
    | cancel => exact ih hrest hgood hw
    | stop => exact ih hrest hgood hw

/-- A simulated run is a run of a world.  What holds as long as the routine can still come to its result holds
before each of its steps. -/
theorem reaches_run_from (good : World ι α → Prop) (h : Allows others events) (signal : StopSignal) (t : Routine α)
    (s : Simulation) (n : Nat) (hw : w.cluster = s.cluster) (ht : w.tasks i = some t)
    (hgood : ∀ c u s' n', (Simulation.run signal events u s' n').1 = (Simulation.run signal events t s n).1 →
      good ⟨c, Function.update w.tasks i (some u)⟩) :
    let r := Simulation.run signal events t s n
    Relation.ReflTransGen (StepFrom good others work) w
      ⟨r.2.cluster, Function.update w.tasks i (some (.done r.1))⟩ := by
  induction t generalizing s n w with
  | done a =>
    have he : w = ⟨s.cluster, Function.update w.tasks i (some (.done a))⟩ := by
      rw [← hw, ← ht, Function.update_eq_self]
    simp only [Simulation.run]
    rw [← he]
  | ask e next ih =>
    have hnow (c : Cluster) : good { w with cluster := c } := by
      have hg := hgood c (.ask e next) s n rfl
      rwa [← ht, Function.update_eq_self] at hg
    -- one step of the world, and the rest of the run from there
    have step {c : Cluster} {r : e.Answer} {s' : Simulation} (n' : Nat)
        (hserved : e.Served c r s'.cluster)
        (hr : (Simulation.run signal events (next r) s' n').1 =
          (Simulation.run signal events (.ask e next) s n).1) :
        let r' := Simulation.run signal events (next r) s' n'
        Relation.ReflTransGen (StepFrom good others work) { w with cluster := c }
          ⟨r'.2.cluster, Function.update w.tasks i (some (.done r'.1))⟩ := by
      have hrun := ih r (w := ⟨s'.cluster, Function.update w.tasks i (some (next r))⟩) s' n' rfl
        (Function.update_self ..) fun c u s'' n'' hu => by
          simpa only [Function.update_idem] using hgood c u s'' n'' (hu.trans hr)
      simp only [Function.update_idem] at hrun
      exact .head ⟨.move (w := { w with cluster := c }) ht hserved, hnow c⟩ hrun
    obtain ⟨c, tasks⟩ := w
    obtain rfl : c = s.cluster := hw
    cases e with
    | call c =>
      let answered : Simulation := { s with cluster := (s.cluster.answer c).2 }
      have hserved : (Effect.call c).Served s.cluster (s.cluster.answer c).1 answered.cluster := .inl rfl
      exact step n hserved rfl
    | now => exact step n rfl rfl
    | record x => exact step n rfl rfl
    | pause ms =>
      by_cases hstop : s.isInterrupted signal = true
      · have hrun : Simulation.run signal events (.ask (.pause ms) next) s n =
            Simulation.run signal events (next true) s n := by
          simp only [Simulation.run, hstop, if_true]
        rw [hrun]
        exact step n rfl (by rw [hrun])
      · have hrun : Simulation.run signal events (.ask (.pause ms) next) s n =
            Simulation.run signal events (next ((s.sleep events (n + 1) ms).isInterrupted signal))
              (s.sleep events (n + 1) ms) (n + 1) := by
          simp only [Simulation.run, hstop]
          rfl
        rw [hrun]
        -- others act first, then the pause is over
        have hplanned := reaches_happenings work (Simulation.plannedFor events (n + 1))
          (fun j hj => h (n + 1) j (Simulation.mem_of_plannedFor hj)) hnow rfl
        exact hplanned.trans (step (n + 1) rfl (by rw [hrun]))

/-- **A simulated run is a run of a world.** -/
theorem reaches_run (work : ι → Routine α) (h : Allows others events) (signal : StopSignal) (t : Routine α)
    (s : Simulation) (n : Nat) (hw : w.cluster = s.cluster) (ht : w.tasks i = some t) :
    let r := Simulation.run signal events t s n
    Relation.ReflTransGen (Step others work) w
      ⟨r.2.cluster, Function.update w.tasks i (some (.done r.1))⟩ :=
  Relation.ReflTransGen.mono (fun _ _ hs => hs.1) _ _
    (reaches_run_from (fun _ => True) h signal t s n hw ht fun _ _ _ _ _ => trivial)

/-- A routine that is started and runs to its end. -/
theorem reaches_start_run (work : ι → Routine α) (h : Allows others events) (signal : StopSignal) (s : Simulation)
    (n : Nat) (hw : w.cluster = s.cluster) (hidle : w.tasks i = none) :
    let r := Simulation.run signal events (work i) s n
    Relation.ReflTransGen (Step others work) w
      ⟨r.2.cluster, Function.update w.tasks i (some (.done r.1))⟩ := by
  have hrun := reaches_run work (w := { w with tasks := Function.update w.tasks i (some (work i)) }) h
    signal (work i) s n hw (Function.update_self ..)
  simp only [Function.update_idem] at hrun
  exact .head (.start hidle) hrun

end World

end LocalVolumes
