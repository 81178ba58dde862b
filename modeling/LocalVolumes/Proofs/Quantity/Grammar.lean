import LocalVolumes.Causes
import LocalVolumes.Proofs.Quantity
import Mathlib.Data.List.DropRight

/-!
# LocalVolumes.Proofs.Quantity.Grammar — which texts are sizes

A size is a numeral with a unit, white space around it apart.  A numeral is a row of digits with at most one point
before, among or after them.  Signs, exponents, other notations and other units are no part of this, though readers of
numbers often take them.  What is read as a size has this form, and a numeral with a point is read unless it is too long
for a double.
-/

namespace LocalVolumes

namespace Text

/-! ### Trimming -/

/-- A text that was trimmed has nothing more to trim. -/
theorem trimChars_trimChars (cs : List Char) : trimChars (trimChars cs) = trimChars cs := by
  have hends (ds : List Char) : trimChars ds = (ds.dropWhile isBlank).rdropWhile isBlank := rfl
  rw [hends cs, hends]
  generalize hfront : cs.dropWhile isBlank = ds
  have hds : ds.dropWhile isBlank = ds := hfront ▸ List.dropWhile_idempotent isBlank cs
  -- what is dropped at the end leaves the first character, if it leaves any
  have hhead : (ds.rdropWhile isBlank).dropWhile isBlank = ds.rdropWhile isBlank := by
    rw [List.dropWhile_eq_self_iff] at hds ⊢
    intro hpos
    have hle := (List.rdropWhile_prefix isBlank ds).length_le
    rw [(List.rdropWhile_prefix isBlank ds).getElem hpos]
    exact hds (by omega)
  rw [hhead, List.rdropWhile_idempotent]

/-! ### Digits -/

theorem toNat_sub_lt_of_isDigit {c : Char} (h : c.isDigit = true) : c.toNat - '0'.toNat < 10 := by
  have hlow : 48 ≤ c.toNat ∧ c.toNat ≤ 57 := Char.isDigit_iff_toNat.1 h
  have hzero : '0'.toNat = 48 := rfl
  omega

theorem digitsValue_cons (d : Char) (ds : List Char) :
    digitsValue (d :: ds) = 10 ^ ds.length * (d.toNat - '0'.toNat) + digitsValue ds := by
  have hvalue (cs : List Char) : digitsValue cs = Nat.ofDigitChars 10 cs 0 := Nat.ofDigitChars_eq_foldl.symm
  rw [hvalue, hvalue, Nat.ofDigitChars_cons, Nat.mul_zero, Nat.zero_add, Nat.ofDigitChars_eq_ofDigitChars_zero]

theorem digitsValue_lt {ds : List Char} (h : ∀ c ∈ ds, c.isDigit = true) : digitsValue ds < 10 ^ ds.length := by
  induction ds with
  | nil => exact Nat.one_pos
  | cons d ds ih =>
    obtain ⟨hd, hds⟩ := List.forall_mem_cons.1 h
    have hdigit : 10 ^ ds.length * (d.toNat - '0'.toNat) ≤ 10 ^ ds.length * 9 :=
      Nat.mul_le_mul_left _ (Nat.le_of_lt_succ (toNat_sub_lt_of_isDigit hd))
    have hrest := ih hds
    rw [digitsValue_cons, List.length_cons, Nat.pow_succ]
    omega

end Text

namespace Quantity

/-! ### The form of a size -/

/-- A numeral: digits, at least one, and at most one point. -/
structure IsNumeral (cs : List Char) : Prop where
  chars : ∀ c ∈ cs, c.isDigit = true ∨ c = '.'
  points : cs.count '.' ≤ 1
  digits : ∃ c ∈ cs, c.isDigit = true

/-- What is written after a numeral: nothing for bytes, or a unit. -/
def unitSuffixes : List String := ["", "Ki", "Mi", "Gi", "Ti", "Pi", "Ei", "k", "M", "G", "T", "P", "E"]

/-- A text that has the form of a size. -/
inductive IsSize : String → Prop
  | intro {numeral : List Char} {suffix : String} :
    IsNumeral numeral → suffix ∈ unitSuffixes → IsSize (String.ofList numeral ++ suffix)

/-! ### Suffixes -/

theorem unitSuffixes_eq : unitSuffixes = unitBytes.map Prod.fst := rfl

theorem exists_ofSuffix?_iff {suffix : String} :
    (∃ scale, Scale.ofSuffix? suffix = some scale) ↔ suffix ∈ unitSuffixes := by
  rw [unitSuffixes_eq, List.mem_map]
  constructor
  · rintro ⟨scale, h⟩
    exact ⟨(suffix, scale.bytes), mem_unitBytes_iff.2 ⟨scale, h, rfl⟩, rfl⟩
  · rintro ⟨⟨_, m⟩, hunit, rfl⟩
    obtain ⟨scale, h, -⟩ := mem_unitBytes_iff.1 hunit
    exact ⟨scale, h⟩

/-! ### Numerals -/

variable {ds : List Char}

theorem IsNumeral.ne_nil (h : IsNumeral ds) : ds ≠ [] := by
  obtain ⟨c, hc, -⟩ := h.digits
  exact List.ne_nil_of_mem hc

theorem IsNumeral.isNumeralChar (h : IsNumeral ds) {c : Char} (hc : c ∈ ds) : isNumeralChar c = true := by
  rw [Quantity.isNumeralChar, Bool.or_eq_true, beq_iff_eq]
  exact h.chars c hc

theorem count_point_of_digits (h : ∀ c ∈ ds, c.isDigit = true) : ds.count '.' = 0 := by
  refine List.count_eq_zero.2 fun hmem => ?_
  exact absurd (h '.' hmem) (by decide)

instance (cs : List Char) : Decidable (IsNumeral cs) :=
  decidable_of_iff (cs.all isNumeralChar = true ∧ cs.count '.' ≤ 1 ∧ cs.any Char.isDigit = true) (by
    simp only [List.all_eq_true, List.any_eq_true, Quantity.isNumeralChar, Bool.or_eq_true, beq_iff_eq]
    exact ⟨fun ⟨hchars, hpoints, hdigits⟩ => ⟨hchars, hpoints, hdigits⟩,
      fun ⟨hchars, hpoints, hdigits⟩ => ⟨hchars, hpoints, hdigits⟩⟩)

/-- The numeral of a size is its leading row of digits and points. -/
theorem isSize_iff {t : String} :
    IsSize t ↔ IsNumeral (t.toList.takeWhile isNumeralChar) ∧
      String.ofList (t.toList.dropWhile isNumeralChar) ∈ unitSuffixes := by
  constructor
  · intro h
    cases h with
    | @intro numeral suffix hnumeral hsuffix =>
      obtain ⟨scale, hscale⟩ := exists_ofSuffix?_iff.2 hsuffix
      obtain ⟨htake, hdrop⟩ := split_append (fun c => hnumeral.isNumeralChar) hscale
      rw [String.toList_append, String.toList_ofList, htake, hdrop, String.ofList_toList]
      exact ⟨hnumeral, hsuffix⟩
  · rintro ⟨hnumeral, hsuffix⟩
    have hsize := IsSize.intro hnumeral hsuffix
    rwa [← String.ofList_append, List.takeWhile_append_dropWhile, String.ofList_toList] at hsize

instance (t : String) : Decidable (IsSize t) := decidable_of_iff' _ isSize_iff

/-- A row of digits is a numeral. -/
theorem isNumeral_of_digits (hne : ds ≠ []) (h : ∀ c ∈ ds, c.isDigit = true) : IsNumeral ds where
  chars c hc := .inl (h c hc)
  points := by
    rw [count_point_of_digits h]
    exact Nat.zero_le 1
  digits := by
    obtain ⟨c, hc⟩ := List.exists_mem_of_ne_nil ds hne
    exact ⟨c, hc, h c hc⟩

/-- A row of digits and points has digits only, or a point comes after the first digits. -/
theorem eq_digits_or_point (h : ∀ c ∈ ds, isNumeralChar c = true) :
    ds.dropWhile Char.isDigit = [] ∨
      ∃ places, ds.dropWhile Char.isDigit = '.' :: places ∧ ds = ds.takeWhile Char.isDigit ++ '.' :: places := by
  have hsplit : ds.takeWhile Char.isDigit ++ ds.dropWhile Char.isDigit = ds := List.takeWhile_append_dropWhile
  cases hrest : ds.dropWhile Char.isDigit with
  | nil => exact .inl rfl
  | cons c places =>
    rw [hrest] at hsplit
    have hfirst : c.isDigit = false := by
      have hhead := List.head?_dropWhile_not Char.isDigit ds
      rwa [hrest] at hhead
    have hmem : c ∈ ds := by
      rw [← hsplit]
      exact List.mem_append_right _ List.mem_cons_self
    have hpoint := h c hmem
    rw [isNumeralChar, hfirst, Bool.false_or, beq_iff_eq] at hpoint
    subst hpoint
    exact .inr ⟨places, rfl, hsplit.symm⟩

theorem isDigit_of_mem_takeWhile {c : Char} (hc : c ∈ ds.takeWhile Char.isDigit) : c.isDigit = true :=
  List.mem_takeWhile_imp hc

/-- A row of digits and points is a numeral just if what follows its first digits and one character has digits only,
and there is a digit in either part. -/
theorem isNumeral_iff (h : ∀ c ∈ ds, isNumeralChar c = true) :
    IsNumeral ds ↔ (∀ c ∈ (ds.dropWhile Char.isDigit).drop 1, c.isDigit = true) ∧
      ds.takeWhile Char.isDigit ++ (ds.dropWhile Char.isDigit).drop 1 ≠ [] := by
  rcases eq_digits_or_point h with hnone | ⟨places, hrest, hsplit⟩
  · have hdigits : ∀ c ∈ ds, c.isDigit = true := List.dropWhile_eq_nil_iff.1 hnone
    rw [hnone, List.takeWhile_eq_self_iff.2 hdigits, List.drop_nil, List.append_nil]
    exact ⟨fun hn => ⟨by simp, hn.ne_nil⟩, fun hn => isNumeral_of_digits hn.2 hdigits⟩
  · rw [hrest, List.drop_succ_cons, List.drop_zero]
    have hcount : ds.count '.' = places.count '.' + 1 := by
      rw [hsplit, List.count_append, count_point_of_digits fun c => isDigit_of_mem_takeWhile, List.count_cons_self,
        Nat.zero_add]
    constructor
    · intro hn
      have hnopoint : '.' ∉ places := List.count_eq_zero.1 (by have := hn.points; omega)
      refine ⟨fun c hc => ?_, fun hnil => ?_⟩
      · have hc' : c ∈ ds := hsplit ▸ List.mem_append_right _ (List.mem_cons_of_mem _ hc)
        exact (hn.chars c hc').resolve_right fun he => hnopoint (he ▸ hc)
      · obtain ⟨c, hc, hdigit⟩ := hn.digits
        obtain ⟨hwhole, hplaces⟩ := List.append_eq_nil_iff.1 hnil
        obtain rfl : places = [] := hplaces
        rw [hsplit, hwhole, List.nil_append, List.mem_singleton] at hc
        exact absurd (hc ▸ hdigit) (by decide)
    · rintro ⟨hplaces, hne⟩
      refine ⟨fun c hc => ?_, ?_, ?_⟩
      · have hchar := h c hc
        rwa [isNumeralChar, Bool.or_eq_true, beq_iff_eq] at hchar
      · rw [hcount, count_point_of_digits hplaces]
      · obtain ⟨c, hc⟩ := List.exists_mem_of_ne_nil _ hne
        rcases List.mem_append.1 hc with hwhole | hplace
        · exact ⟨c, List.takeWhile_subset _ hwhole, isDigit_of_mem_takeWhile hwhole⟩
        · exact ⟨c, hsplit ▸ List.mem_append_right _ (List.mem_cons_of_mem _ hplace), hplaces c hplace⟩

/-! ### What is read -/

/-- Only numerals are read as doubles. -/
theorem isNumeral_of_doubleValue? {x : Binary64} (h : ∀ c ∈ ds, isNumeralChar c = true) (hx : doubleValue? ds = some x) :
    IsNumeral ds := by
  unfold doubleValue? at hx
  dsimp only at hx
  split at hx
  · next hform => exact (isNumeral_iff h).2 ⟨List.all_eq_true.1 hform.1, hform.2⟩
  · cases hx

theorem isNumeral_of_wholeValue? {n : Nat} (h : wholeValue? ds = some n) : IsNumeral ds := by
  unfold wholeValue? at h
  split at h
  · next hform => exact isNumeral_of_digits hform.1 (List.all_eq_true.1 hform.2.1)
  · cases h

theorem ten_pow_le_leastInfinite {k : Nat} (h : k ≤ 300) : 10 ^ k ≤ Binary64.leastInfinite := by
  -- the exponent stays a variable, so that only the kernel evaluates the power
  obtain ⟨e, he⟩ : ∃ e, e = 300 := ⟨300, rfl⟩
  have hmost : 10 ^ e ≤ Binary64.leastInfinite := by
    subst he
    decide +kernel
  exact Nat.le_trans (Nat.pow_le_pow_right (by decide) (he ▸ h)) hmost

/-- A numeral that is not too long is read as a double. -/
theorem exists_doubleValue? (h : IsNumeral ds) (hlength : ds.length ≤ 300) : ∃ x, doubleValue? ds = some x := by
  obtain ⟨hplaces, hne⟩ := (isNumeral_iff fun c => h.isNumeralChar).1 h
  unfold doubleValue?
  dsimp only
  generalize hrest : (ds.dropWhile Char.isDigit).drop 1 = places at hplaces hne ⊢
  have hdigits : ∀ c ∈ ds.takeWhile Char.isDigit ++ places, c.isDigit = true := fun c hc =>
    (List.mem_append.1 hc).elim isDigit_of_mem_takeWhile (hplaces c)
  have hlength' : (ds.takeWhile Char.isDigit ++ places).length ≤ 300 := by
    have hparts : (ds.takeWhile Char.isDigit).length + (ds.dropWhile Char.isDigit).length = ds.length := by
      rw [← List.length_append, List.takeWhile_append_dropWhile]
    rw [List.length_append, ← hrest, List.length_drop]
    omega
  have hden : 0 < Nat.pow 10 places.length := Nat.pow_pos (by decide)
  have hfinite : ¬ (Binary64.ofQuotient (Text.digitsValue (ds.takeWhile Char.isDigit ++ places))
      (Nat.pow 10 places.length)).isInfinite = true := by
    rw [Binary64.isInfinite_ofQuotient_iff hden, Nat.not_le]
    calc Text.digitsValue (ds.takeWhile Char.isDigit ++ places)
        < 10 ^ (ds.takeWhile Char.isDigit ++ places).length := Text.digitsValue_lt hdigits
      _ ≤ Binary64.leastInfinite := ten_pow_le_leastInfinite hlength'
      _ ≤ Binary64.leastInfinite * Nat.pow 10 places.length := Nat.le_mul_of_pos_right _ hden
  rw [if_pos ⟨List.all_eq_true.2 hplaces, hne⟩, if_neg hfinite]
  exact ⟨_, rfl⟩

/-- What is read as a size has the form of one. -/
theorem isSize_of_parse {s : String} {n : Nat} (h : parse s = .ok n) : IsSize (Text.trim s) := by
  rw [isSize_iff, Text.trim, String.toList_ofList]
  unfold parse at h
  generalize Text.trimChars s.toList = cs at h ⊢
  dsimp only at h
  split at h
  · cases h
  split at h
  · next scale hscale =>
    refine ⟨?_, exists_ofSuffix?_iff.1 ⟨scale, hscale⟩⟩
    unfold scaled at h
    split at h
    · next hwhole => exact isNumeral_of_wholeValue? hwhole
    · split at h
      · next hdouble => exact isNumeral_of_doubleValue? (fun c hc => List.mem_takeWhile_imp hc) hdouble
      · cases h
  · cases h

/-- White space around a size makes no difference. -/
theorem parse_trim (s : String) : parse (Text.trim s) = parse s := by
  simp only [parse, Text.trim, String.toList_ofList, Text.trimChars_trimChars]

/-- A numeral with a point is read, with any unit. -/
theorem exists_parse_of_point {suffix : String} (h : IsNumeral ds) (hpoint : '.' ∈ ds) (hlength : ds.length ≤ 300)
    (hsuffix : suffix ∈ unitSuffixes) : ∃ n, parse (String.ofList ds ++ suffix) = .ok n := by
  obtain ⟨scale, hscale⟩ := exists_ofSuffix?_iff.2 hsuffix
  obtain ⟨x, hx⟩ := exists_doubleValue? h hlength
  have hwhole : wholeValue? ds = none := by
    refine if_neg fun hdigits => ?_
    exact absurd (List.all_eq_true.1 hdigits.2.1 '.' hpoint) (by decide)
  rw [parse_append h.ne_nil (fun c => h.isNumeralChar) hscale, scaled, hwhole, hx]
  exact ⟨_, rfl⟩

/-- **What is read as a size is a numeral with a unit, and nothing else.**  Any other text is refused as a malformed size;
a numeral with a point that has no more than 300 characters is read with each of the units; and white space around a
text makes no difference. -/
theorem size_is_numeral_with_unit (s : String) :
    (¬ IsSize (Text.trim s) → ∃ message, (parse s).mapError Fault.toFault = .error (.quantityParse message)) ∧
    (∀ numeral suffix, Text.trim s = String.ofList numeral ++ suffix → IsNumeral numeral → suffix ∈ unitSuffixes →
      '.' ∈ numeral → numeral.length ≤ 300 → ∃ n, parse s = .ok n) ∧
    parse s = parse (Text.trim s) := by
  refine ⟨fun hform => ?_, ?_, (parse_trim s).symm⟩
  · cases hparse : parse s with
    | error cause => exact ⟨cause.message, rfl⟩
    | ok n => exact absurd (isSize_of_parse hparse) hform
  · intro numeral suffix hsize hnumeral hsuffix hpoint hlength
    rw [← parse_trim, hsize]
    exact exists_parse_of_point hnumeral hpoint hlength hsuffix

/-- With white space around it `1.5Gi` is read, and `-1.5Gi` is refused. -/
theorem size_is_numeral_with_unit_half :
    (∃ n, parse "\t1.5Gi " = .ok n) ∧
      ∃ message, (parse "-1.5Gi").mapError Fault.toFault = .error (.quantityParse message) := by
  obtain ⟨-, hread, -⟩ := size_is_numeral_with_unit "\t1.5Gi "
  obtain ⟨hrefused, -, -⟩ := size_is_numeral_with_unit "-1.5Gi"
  exact ⟨hread "1.5".toList "Gi" (by decide) (by decide) (by decide) (by decide) (by decide), hrefused (by decide)⟩

end Quantity

end LocalVolumes
