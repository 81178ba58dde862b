import LocalVolumes.Binary64
import Mathlib.Tactic.Ring

/-!
# LocalVolumes.Proofs.Binary64 — how far rounding goes

Of a quotient in units the leading 53 binary digits are kept, and all of them if there are no more.  So a quotient is
rounded up to a power of two just if it is nearer to it than to the double before it, or as near, because the power of
two is the even one of these neighbours.  With `2 ^ 1024` this tells which quotients become infinite.
-/

namespace LocalVolumes.Binary64

theorem exists_two_pow_eq : ∃ e, 2 ^ e = one := by
  refine ⟨1074, ?_⟩
  rw [one, Nat.one_shiftLeft]

theorem one_pos : 0 < one := by
  obtain ⟨e, he⟩ := exists_two_pow_eq
  exact he ▸ Nat.two_pow_pos e

/-! ### The nearest whole number -/

theorem roundQuotient_cases (num den : Nat) :
    roundQuotient num den = num / den ∧ 2 * (num % den) ≤ den ∨
      roundQuotient num den = num / den + 1 ∧ den ≤ 2 * (num % den) := by
  unfold roundQuotient
  dsimp only
  split
  · exact .inl ⟨rfl, by omega⟩
  · split
    · exact .inr ⟨rfl, by omega⟩
    · split
      · exact .inl ⟨rfl, by omega⟩
      · exact .inr ⟨rfl, by omega⟩

theorem div_le_roundQuotient (num den : Nat) : num / den ≤ roundQuotient num den := by
  rcases roundQuotient_cases num den with ⟨h, -⟩ | ⟨h, -⟩ <;> omega

theorem roundQuotient_le (num den : Nat) : roundQuotient num den ≤ num / den + 1 := by
  rcases roundQuotient_cases num den with ⟨h, -⟩ | ⟨h, -⟩ <;> omega

/-- A quotient is rounded past an odd number just if it is half way to the next one, which is even. -/
theorem lt_roundQuotient_iff {num den k : Nat} (hden : 0 < den) (hodd : k % 2 = 1) :
    k < roundQuotient num den ↔ (2 * k + 1) * den ≤ 2 * num := by
  have hnum := Nat.div_add_mod num den
  have hrest := Nat.mod_lt num hden
  rw [Nat.add_mul, Nat.one_mul, Nat.mul_assoc]
  rcases Nat.lt_trichotomy (num / den) k with hlt | heq | hgt
  · have hnext := Nat.mul_le_mul_left den hlt
    have hround := roundQuotient_le num den
    rw [Nat.mul_succ, Nat.mul_comm den k] at hnext
    omega
  · have htie : k < roundQuotient num den ↔ den ≤ 2 * (num % den) := by
      unfold roundQuotient
      dsimp only
      rw [heq, hodd]
      split
      · omega
      · split <;> simp <;> omega
    rw [heq, Nat.mul_comm den k] at hnum
    omega
  · have hnext := Nat.mul_le_mul_left den hgt
    have hround := div_le_roundQuotient num den
    rw [Nat.mul_succ, Nat.mul_comm den k] at hnext
    omega

/-! ### The digits that are kept -/

/-- How many binary digits a double does not keep of a whole number of units. -/
def spare (q : Nat) : Nat := (if q = 0 then 0 else Nat.log2 q + 1) - 53

theorem lt_two_pow_spare (q : Nat) : q < 2 ^ (spare q + 53) := by
  unfold spare
  split
  · next h => simp [h]
  · have hlog : q < 2 ^ (q.log2 + 1) := Nat.lt_log2_self
    exact Nat.lt_of_lt_of_le hlog (Nat.pow_le_pow_right (by decide) (by omega))

theorem two_pow_spare_le {q : Nat} (h : spare q ≠ 0) : 2 ^ (spare q + 52) ≤ q := by
  unfold spare at h ⊢
  split
  · next hq => simp [hq] at h
  · next hq =>
    rw [if_neg hq] at h
    have hdigits : q.log2 + 1 - 53 + 52 = q.log2 := by omega
    rw [hdigits]
    exact Nat.log2_self_le hq

theorem units_ofQuotient (num den : Nat) :
    (ofQuotient num den).units =
      roundQuotient (num * one) (den * 2 ^ spare (num * one / den)) * 2 ^ spare (num * one / den) := by
  simp only [ofQuotient, spare, Nat.one_shiftLeft]

/-- The digits that are kept of a quotient are no more than 53, and no fewer if others are not kept. -/
theorem kept_bounds (num den : Nat) :
    let p := spare (num / den)
    num / (den * 2 ^ p) < 2 ^ 53 ∧ (p ≠ 0 → 2 ^ 52 ≤ num / (den * 2 ^ p)) := by
  intro p
  have hpos : 0 < 2 ^ p := Nat.two_pow_pos p
  rw [← Nat.div_div_eq_div_mul]
  constructor
  · rw [Nat.div_lt_iff_lt_mul hpos, ← Nat.pow_add, Nat.add_comm]
    exact lt_two_pow_spare _
  · intro hp
    rw [Nat.le_div_iff_mul_le hpos, ← Nat.pow_add, Nat.add_comm]
    exact two_pow_spare_le hp

/-! ### Powers of two -/

/-- A quotient in units is rounded to `2 ^ (e + 54)` just if it is at least half way there from the number with 53 binary
digits before it. -/
theorem two_pow_le_rounded_iff {num den : Nat} (hden : 0 < den) (e : Nat) :
    2 ^ (e + 54) ≤ roundQuotient num (den * 2 ^ spare (num / den)) * 2 ^ spare (num / den) ↔
      (2 ^ 54 - 1) * (2 ^ e * den) ≤ num := by
  obtain ⟨hmost, hleast⟩ := kept_bounds num den
  generalize spare (num / den) = p at hmost hleast ⊢
  have hpos : 0 < den * 2 ^ p := Nat.mul_pos hden (Nat.two_pow_pos p)
  have hlow := div_le_roundQuotient num (den * 2 ^ p)
  have hhigh := roundQuotient_le num (den * 2 ^ p)
  have hunits : 0 < 2 ^ e * den := Nat.mul_pos (Nat.two_pow_pos e) hden
  rcases Nat.lt_trichotomy p (e + 1) with hlt | heq | hgt
  · -- fewer digits are left out than the number before `2 ^ (e + 54)` lacks: both sides are false
    have hp : 2 ^ p ≤ 2 ^ e := Nat.pow_le_pow_right (by decide) (by omega)
    have hround := Nat.mul_le_mul (show roundQuotient num (den * 2 ^ p) ≤ 2 ^ 53 by omega) hp
    have hnum := (Nat.div_lt_iff_lt_mul hpos).1 hmost
    have hscale := Nat.mul_le_mul_left den hp
    rw [Nat.mul_comm den (2 ^ e)] at hscale
    have hpow : 2 ^ (e + 54) = 2 ^ e * 2 ^ 54 := Nat.pow_add ..
    have hone := Nat.two_pow_pos e
    omega
  · subst heq
    have hpow : 2 ^ (e + 54) = 2 ^ 53 * 2 ^ (e + 1) := by rw [← Nat.pow_add]; congr 1; omega
    have hodd : 2 ^ 53 - 1 < roundQuotient num _ ↔ _ := lt_roundQuotient_iff hpos (by decide)
    have hdouble : den * 2 ^ (e + 1) = 2 * (2 ^ e * den) := by rw [Nat.pow_succ]; ring
    rw [hpow, Nat.mul_le_mul_right_iff (Nat.two_pow_pos _)]
    rw [hdouble] at hodd ⊢
    omega
  · -- more are left out: both sides are true
    have hp : 2 ^ (e + 2) ≤ 2 ^ p := Nat.pow_le_pow_right (by decide) hgt
    have hkept := hleast (by omega)
    have hround := Nat.mul_le_mul (Nat.le_trans hkept hlow) hp
    have hnum := (Nat.le_div_iff_mul_le hpos).1 hkept
    have hscale := Nat.mul_le_mul_left den hp
    have hpow : 2 ^ (e + 54) = 2 ^ 52 * 2 ^ (e + 2) := by rw [← Nat.pow_add]; congr 1; omega
    have hfour : den * 2 ^ (e + 2) = 4 * (2 ^ e * den) := by rw [Nat.pow_succ, Nat.pow_succ]; ring
    omega

/-- A quotient is rounded to a power of two just if it is at least half way there from the double before it. -/
theorem two_pow_le_units_iff {num den d t : Nat} (hden : 0 < den) (ht : d + 54 = t) :
    2 ^ t * one ≤ (ofQuotient num den).units ↔ (2 ^ t - 2 ^ d) * den ≤ num := by
  obtain ⟨e, he⟩ := exists_two_pow_eq
  subst ht
  have htop : 2 ^ (d + 54) * one = 2 ^ (d + e + 54) := by rw [← he, ← Nat.pow_add, Nat.add_right_comm]
  have hspacing : 2 ^ (d + e) * den = 2 ^ d * den * one := by rw [Nat.pow_add, he, Nat.mul_right_comm]
  have hhalf : (2 ^ 54 - 1) * 2 ^ d = 2 ^ (d + 54) - 2 ^ d := by
    rw [Nat.sub_mul, Nat.one_mul, Nat.pow_add, Nat.mul_comm]
  rw [units_ofQuotient, htop, two_pow_le_rounded_iff hden, hspacing, ← Nat.mul_assoc,
    Nat.mul_le_mul_right_iff one_pos, ← Nat.mul_assoc, hhalf]

/-- A quotient that reaches a power of two, from `2 ^ 54` on, does so as a double. -/
theorem two_pow_le_units_ofQuotient {num den t : Nat} (hden : 0 < den) (ht : 54 ≤ t) (h : 2 ^ t * den ≤ num) :
    2 ^ t * one ≤ (ofQuotient num den).units := by
  have hbefore : (2 ^ t - 2 ^ (t - 54)) * den ≤ 2 ^ t * den := Nat.mul_le_mul_right den (Nat.sub_le ..)
  exact (two_pow_le_units_iff hden (Nat.sub_add_cancel ht)).2 (Nat.le_trans hbefore h)

theorem two_pow_le_units_ofNat {n t : Nat} (ht : 54 ≤ t) (h : 2 ^ t ≤ n) : 2 ^ t * one ≤ (ofNat n).units :=
  two_pow_le_units_ofQuotient Nat.one_pos ht ((Nat.mul_one _).symm ▸ h)

theorem two_pow_le_units_scale {x : Binary64} {m t : Nat} (hm : 0 < m) (ht : 54 ≤ t) (h : 2 ^ t * one ≤ x.units) :
    2 ^ t * one ≤ (x.scale m).units :=
  two_pow_le_units_ofQuotient one_pos ht (Nat.le_trans h (Nat.le_mul_of_pos_right _ hm))

theorem le_ceil {x : Binary64} {n : Nat} (h : n * one ≤ x.units) : n ≤ x.ceil := by
  rw [ceil, Nat.le_div_iff_mul_le one_pos]
  exact Nat.le_add_right_of_le h

/-! ### Infinity -/

theorem isInfinite_iff (x : Binary64) : x.isInfinite = true ↔ 2 ^ 1024 * one ≤ x.units := by
  rw [Nat.mul_comm, ← Nat.shiftLeft_eq]
  exact decide_eq_true_iff

/-- The least whole number that is infinite as a double: half way from the largest double to `2 ^ 1024`. -/
def leastInfinite : Nat := 2 ^ 1024 - 2 ^ 970

theorem isInfinite_ofQuotient_iff {num den : Nat} (hden : 0 < den) :
    (ofQuotient num den).isInfinite = true ↔ leastInfinite * den ≤ num :=
  have htop : (970 : Nat) + 54 = 1024 := rfl
  (isInfinite_iff _).trans (two_pow_le_units_iff hden htop)

end LocalVolumes.Binary64
