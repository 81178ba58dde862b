import Mathlib.Data.List.Forall2

/-!
# LocalVolumes.Proofs.Lists — going through lists

A list is gone through with a step that may fail, to keep the best of its entries, or to sort them.  The lemmas here say
what comes of each, whatever the list, the step and the order are.
-/

namespace LocalVolumes

variable {α β ε : Type}

/-! ### Steps that may fail -/

/-- Mapping a list succeeds just if it does so on every entry. -/
theorem mapM_eq_ok_iff {f : α → Except ε β} {as : List α} {bs : List β} :
    as.mapM f = .ok bs ↔ as.map f = bs.map .ok := by
  induction as generalizing bs with
  | nil => cases bs <;> simp [pure, Except.pure]
  | cons a as ih =>
    rw [List.mapM_cons, List.map_cons]
    cases hf : f a with
    | error e => cases bs <;> simp [bind, Except.bind]
    | ok b =>
      cases hm : as.mapM f with
      | error e =>
        have hne (bs : List β) : as.map f ≠ bs.map .ok := fun heq => by
          have hok := ih.2 heq
          rw [hm] at hok
          cases hok
        cases bs <;> simp [bind, Except.bind, hne]
      | ok bs' =>
        have hbs := ih.1 hm
        cases bs with
        | nil => simp [bind, Except.bind, pure, Except.pure]
        | cons b' bs => simp [bind, Except.bind, pure, Except.pure, ← ih, hm]

/-- What a list is mapped to, where that succeeds, stems from the list. -/
theorem mem_iff_of_mapM {f : α → Except ε β} {as : List α} {bs : List β} (h : as.mapM f = .ok bs)
    {b : β} : b ∈ bs ↔ ∃ a ∈ as, f a = .ok b := by
  have hmem : Except.ok b ∈ as.map f ↔ (Except.ok b : Except ε β) ∈ bs.map .ok := by rw [mapM_eq_ok_iff.1 h]
  simpa [List.mem_map] using hmem.symm

/-- Where mapping a list fails, it fails with the fault of an entry. -/
theorem exists_of_mapM_eq_error {f : α → Except ε β} {as : List α} {e : ε}
    (h : as.mapM f = .error e) : ∃ a ∈ as, f a = .error e := by
  induction as with
  | nil => cases h
  | cons a as ih =>
    rw [List.mapM_cons] at h
    cases hf : f a with
    | error e' =>
      rw [hf] at h
      obtain rfl := Except.error.inj h
      exact ⟨a, List.mem_cons_self, hf⟩
    | ok b =>
      cases hm : as.mapM f with
      | error e' =>
        rw [hf, hm] at h
        obtain rfl := Except.error.inj h
        obtain ⟨a', ha', hf'⟩ := ih hm
        exact ⟨a', List.mem_cons_of_mem _ ha', hf'⟩
      | ok bs =>
        rw [hf, hm] at h
        cases h

/-- Mapping a list comes to a result just if every entry does. -/
theorem exists_mapM_iff {f : α → Except ε β} {as : List α} :
    (∃ bs, as.mapM f = .ok bs) ↔ ∀ a ∈ as, ∃ b, f a = .ok b := by
  constructor
  · rintro ⟨bs, hbs⟩ a ha
    have hmem : f a ∈ bs.map .ok := mapM_eq_ok_iff.1 hbs ▸ List.mem_map_of_mem ha
    obtain ⟨b, -, hb⟩ := List.mem_map.1 hmem
    exact ⟨b, hb.symm⟩
  · intro hall
    cases hm : as.mapM f with
    | ok bs => exact ⟨bs, rfl⟩
    | error e =>
      obtain ⟨a, ha, he⟩ := exists_of_mapM_eq_error hm
      obtain ⟨b, hb⟩ := hall a ha
      rw [he] at hb
      cases hb

/-- What holds of all results is told by the entries that they come of. -/
theorem forall_mem_iff_of_mapM {f : α → Except ε β} {as : List α} {bs : List β} (h : as.mapM f = .ok bs)
    {p : β → Prop} {q : α → Prop} (hpq : ∀ a b, f a = .ok b → (p b ↔ q a)) : (∀ b ∈ bs, p b) ↔ ∀ a ∈ as, q a := by
  constructor
  · intro hall a ha
    obtain ⟨b, hb⟩ := exists_mapM_iff.1 ⟨bs, h⟩ a ha
    exact (hpq a b hb).1 (hall b ((mem_iff_of_mapM h).2 ⟨a, ha, hb⟩))
  · intro hall b hb
    obtain ⟨a, ha, hab⟩ := (mem_iff_of_mapM h).1 hb
    exact (hpq a b hab).2 (hall a ha)

theorem mapM_eq_some_iff {f : α → Option β} {as : List α} {bs : List β} :
    as.mapM f = some bs ↔ as.map f = bs.map some := by
  induction as generalizing bs with
  | nil => cases bs <;> simp
  | cons a as ih =>
    rw [List.mapM_cons, List.map_cons]
    simp only [Option.bind_eq_bind, Option.bind_eq_some_iff, Option.pure_def, Option.some.injEq, ih]
    cases bs with
    | nil => simp
    | cons b bs => simp

theorem exists_of_mem_mapM {f : α → Option β} {as : List α} {bs : List β} (h : as.mapM f = some bs) {b : β}
    (hb : b ∈ bs) : ∃ a ∈ as, f a = some b := by
  have hmem : some b ∈ as.map f := mapM_eq_some_iff.1 h ▸ List.mem_map_of_mem hb
  exact List.mem_map.1 hmem

/-! Long sequences of steps are taken apart in the notation of monads.  In that of `Option.bind` simp goes through all
later steps twice at each one, because of a congruence lemma. -/

theorem some_bind_eq (a : α) (f : α → Option β) : (some a >>= f) = f a := rfl

theorem bind_eq_some_iff {x : Option α} {f : α → Option β} {b : β} :
    (x >>= f) = some b ↔ ∃ a, x = some a ∧ f a = some b := Option.bind_eq_some_iff

/-! ### Keeping the best -/

section Best

variable {before good : α → α → Prop} {step : Option α → α → Option α}

/-- A step that keeps one of two that is at least as good as the other ends with one that is at least as good as all.
It is enough that the step is right about entries that come in the order of the list. -/
theorem exists_best_of_foldl_some (hrefl : ∀ a, good a a) (htrans : ∀ a b c, good a b → good b c → good a c)
    (hstep : ∀ a x, before a x → step (some a) x = some a ∧ good a x ∨ step (some a) x = some x ∧ good x a)
    {l : List α} {a : α} (hl : (a :: l).Pairwise before) :
    ∃ b ∈ a :: l, l.foldl step (some a) = some b ∧ ∀ x ∈ a :: l, good b x := by
  induction l generalizing a with
  | nil => exact ⟨a, List.mem_cons_self, rfl, by simpa using hrefl a⟩
  | cons x l ih =>
    have hax : before a x := List.rel_of_pairwise_cons hl List.mem_cons_self
    rw [List.foldl_cons]
    rcases hstep a x hax with ⟨hkept, hgood⟩ | ⟨hkept, hgood⟩
    · have hsub : (a :: l).Sublist (a :: x :: l) := (List.sublist_cons_self x l).cons_cons a
      obtain ⟨b, hb, hfold, hbest⟩ := ih (hl.sublist hsub)
      refine ⟨b, hsub.subset hb, by rw [hkept, hfold], List.forall_mem_cons.2 ⟨hbest a List.mem_cons_self, ?_⟩⟩
      exact List.forall_mem_cons.2
        ⟨htrans _ _ _ (hbest a List.mem_cons_self) hgood, fun y hy => hbest y (List.mem_cons_of_mem a hy)⟩
    · obtain ⟨b, hb, hfold, hbest⟩ := ih (List.pairwise_cons.1 hl).2
      refine ⟨b, List.mem_cons_of_mem a hb, by rw [hkept, hfold], List.forall_mem_cons.2 ⟨?_, hbest⟩⟩
      exact htrans _ _ _ (hbest x List.mem_cons_self) hgood

/-- A list with entries has a best one, and that is what is kept. -/
theorem exists_best_of_foldl (hrefl : ∀ a, good a a) (htrans : ∀ a b c, good a b → good b c → good a c)
    (hfirst : ∀ x, step none x = some x)
    (hstep : ∀ a x, before a x → step (some a) x = some a ∧ good a x ∨ step (some a) x = some x ∧ good x a)
    {l : List α} (hl : l.Pairwise before) (hne : l ≠ []) :
    ∃ b ∈ l, l.foldl step none = some b ∧ ∀ x ∈ l, good b x := by
  cases l with
  | nil => exact absurd rfl hne
  | cons a l =>
    rw [List.foldl_cons, hfirst]
    exact exists_best_of_foldl_some hrefl htrans hstep hl

end Best

/-! ### Sorting by names -/

end LocalVolumes
