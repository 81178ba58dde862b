import LocalVolumes.Proofs.Cluster.Objects
import Std.Data.String.ToNat

/-!
# LocalVolumes.Proofs.Cluster.Renewal — tables whose objects are known by their versions

Every write gives its object the next version, which no object had before.  So an object that is met under its name
once more, and with the version that it had, is the same object.
-/

namespace LocalVolumes.Cluster

variable {α : Type} [Resource α] {m m' m'' : NameMap α} {i j k : Nat} {n : String}

/-- An object carries a version that was given after the first and until the second of two. -/
def DatedBetween (i j : Nat) (a : α) : Prop :=
  ∃ k, i < k ∧ k ≤ j ∧ (Resource.metadata a).resourceVersion = some (toString k)

/-- Every object of a table carries a version that was given until then. -/
def Dated (j : Nat) (m : NameMap α) : Prop := ∀ n a, m.get? n = some a → DatedBetween 0 j a

/-- Every object of the second table was in the first, or has a version that was given since. -/
def Renewed (i j : Nat) (m m' : NameMap α) : Prop :=
  ∀ n a, m'.get? n = some a → m.get? n = some a ∨ DatedBetween i j a

theorem DatedBetween.mono {i' j' : Nat} {a : α} (h : DatedBetween i j a) (hi : i' ≤ i) (hj : j ≤ j') :
    DatedBetween i' j' a := by
  obtain ⟨k, hk, hk', hr⟩ := h
  exact ⟨k, Nat.lt_of_le_of_lt hi hk, Nat.le_trans hk' hj, hr⟩

theorem Renewed.of_eq (h : m' = m) : Renewed i j m m' := fun _ _ ha => .inl (h ▸ ha)

theorem Renewed.trans (hij : i ≤ j) (hjk : j ≤ k) (h : Renewed i j m m') (h' : Renewed j k m' m'') :
    Renewed i k m m'' := by
  intro n a ha
  rcases h' n a ha with ha | hd
  · exact (h n a ha).imp id fun hd => hd.mono (Nat.le_refl _) hjk
  · exact .inr (hd.mono hij (Nat.le_refl _))

theorem Renewed.dated (hij : i ≤ j) (h : Renewed i j m m') (hm : Dated i m) : Dated j m' := by
  intro n a ha
  rcases h n a ha with ha | hd
  · exact (hm n a ha).mono (Nat.le_refl _) hij
  · exact hd.mono (Nat.zero_le _) (Nat.le_refl _)

/-- **An object is known by its version.** -/
theorem Renewed.eq_of_version (h : Renewed i j m m') (hm : Dated i m) {a a' : α} (ha : m.get? n = some a)
    (ha' : m'.get? n = some a')
    (he : (Resource.metadata a').resourceVersion = (Resource.metadata a).resourceVersion) : a' = a := by
  rcases h n a' ha' with hn | ⟨k, hk, -, hr⟩
  · exact Option.some.inj (hn.symm.trans ha)
  · obtain ⟨k', -, hk', hr'⟩ := hm n a ha
    rw [hr, hr', Option.some.injEq] at he
    have hkk : k = k' := Nat.repr_inj.1 he
    omega

/-- A request that is taken for current, and carries the version of an object that was met before, meets the same. -/
theorem Renewed.eq_of_isCurrent (h : Renewed i j m m') (hm : Dated i m) {a a' request : α} (ha : m.get? n = some a)
    (hv : (Resource.metadata request).resourceVersion = (Resource.metadata a).resourceVersion)
    (ha' : m'.get? n = some a') (hc : isCurrent a' request = true) : a' = a := by
  refine h.eq_of_version hm ha ha' ?_
  obtain ⟨k, -, -, hk⟩ := hm n a ha
  have hr : (Resource.metadata request).resourceVersion = some (toString k) := hv.trans hk
  simp only [isCurrent, hr, beq_iff_eq] at hc
  exact hc.trans hk.symm

end LocalVolumes.Cluster
