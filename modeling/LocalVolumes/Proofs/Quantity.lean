import LocalVolumes.Proofs.Binary64
import LocalVolumes.Quantity
import Mathlib.Data.List.TakeWhile

/-!
# LocalVolumes.Proofs.Quantity — sizes that are written as whole numbers

A size that the provisioner asks for is written as a number without a unit.  Whoever reads it gets that number back, as
long as it has no more than 64 bits.  With a unit a numeral of 64 bits is multiplied exactly, or the size is refused.  A
longer numeral goes through a double, which is capped where it should be refused.
-/

namespace LocalVolumes

namespace Text

/-- A text without white space is trimmed already. -/
theorem trimChars_eq_self {cs : List Char} (h : ∀ c ∈ cs, isBlank c = false) : trimChars cs = cs := by
  have hdrop {ds : List Char} (hds : ∀ c ∈ ds, isBlank c = false) : ds.dropWhile isBlank = ds :=
    List.dropWhile_eq_self_iff.2 fun _ => Bool.eq_false_iff.1 (hds _ (List.getElem_mem _))
  rw [trimChars, hdrop h, hdrop fun c hc => h c (List.mem_reverse.1 hc), List.reverse_reverse]

theorem isBlank_of_isDigit {c : Char} (h : c.isDigit = true) : isBlank c = false := by
  have hlow : 48 ≤ c.toNat ∧ c.toNat ≤ 57 := Char.isDigit_iff_toNat.1 h
  simp only [isBlank, Bool.or_eq_false_iff, Bool.and_eq_false_iff, decide_eq_false_iff_not, beq_eq_false_iff_ne]
  omega

theorem digitsValue_toDigits (n : Nat) : digitsValue (Nat.toDigits 10 n) = n := by
  rw [digitsValue, ← Nat.ofDigitChars_eq_foldl, Nat.ofDigitChars_ten_toDigits]

end Text

namespace Quantity

/-! ### Units -/

/-- What is written after a numeral, with the bytes that it stands for: nothing, or one of the units. -/
def unitBytes : List (String × Nat) :=
  [("", 1), ("Ki", 1024), ("Mi", 1024 ^ 2), ("Gi", 1024 ^ 3), ("Ti", 1024 ^ 4), ("Pi", 1024 ^ 5), ("Ei", 1024 ^ 6),
    ("k", 1000), ("M", 1000 ^ 2), ("G", 1000 ^ 3), ("T", 1000 ^ 4), ("P", 1000 ^ 5), ("E", 1000 ^ 6)]

theorem mem_unitBytes_iff {suffix : String} {m : Nat} :
    (suffix, m) ∈ unitBytes ↔ ∃ scale, Scale.ofSuffix? suffix = some scale ∧ scale.bytes = m := by
  constructor
  · intro h
    have hall : unitBytes.all (fun unit => (Scale.ofSuffix? unit.1).any (·.bytes == unit.2)) = true := by decide
    obtain ⟨scale, hscale, hbytes⟩ := (Option.any_eq_true _ _).1 (List.all_eq_true.1 hall (suffix, m) h)
    exact ⟨scale, hscale, beq_iff_eq.1 hbytes⟩
  · rintro ⟨scale, hscale, rfl⟩
    unfold Scale.ofSuffix? at hscale
    split at hscale
    case h_14 => cases hscale
    all_goals
      obtain rfl := Option.some.inj hscale
      decide

/-! ### A numeral with a unit -/

theorem isNumeralChar_of_isDigit {c : Char} (h : c.isDigit = true) : isNumeralChar c = true := by
  rw [isNumeralChar, h, Bool.true_or]

theorem isBlank_of_isNumeralChar {c : Char} (h : isNumeralChar c = true) : Text.isBlank c = false := by
  rcases Bool.or_eq_true_iff.1 h with hdigit | hpoint
  · exact Text.isBlank_of_isDigit hdigit
  · obtain rfl := eq_of_beq hpoint
    decide

/-- A unit is written in letters. -/
theorem Scale.letters_of_ofSuffix? {suffix : String} {scale : Scale} (h : Scale.ofSuffix? suffix = some scale) :
    ∀ c ∈ suffix.toList, isNumeralChar c = false ∧ Text.isBlank c = false := by
  have hall : unitBytes.all (fun unit => unit.1.toList.all fun c => !isNumeralChar c && !Text.isBlank c) = true := by
    decide
  intro c hc
  simpa using List.all_eq_true.1 (List.all_eq_true.1 hall _ (mem_unitBytes_iff.2 ⟨scale, h, rfl⟩)) c hc

theorem Scale.bytes_pos (scale : Scale) : 0 < scale.bytes := by
  cases scale with
  | binary p => exact Nat.pow_pos (by decide)
  | decimal p => exact Nat.pow_pos (by decide)

/-- A numeral ends where its unit begins. -/
theorem split_append {numeral : List Char} {suffix : String} {scale : Scale}
    (hnumeral : ∀ c ∈ numeral, isNumeralChar c = true) (hscale : Scale.ofSuffix? suffix = some scale) :
    (numeral ++ suffix.toList).takeWhile isNumeralChar = numeral ∧
      (numeral ++ suffix.toList).dropWhile isNumeralChar = suffix.toList := by
  have hletters : ∀ c ∈ suffix.toList, ¬ isNumeralChar c = true := fun c hc =>
    Bool.eq_false_iff.1 (Scale.letters_of_ofSuffix? hscale c hc).1
  have htake : suffix.toList.takeWhile isNumeralChar = [] :=
    List.takeWhile_eq_nil_iff.2 fun _ => hletters _ (List.getElem_mem _)
  have hdrop : suffix.toList.dropWhile isNumeralChar = suffix.toList :=
    List.dropWhile_eq_self_iff.2 fun _ => hletters _ (List.getElem_mem _)
  rw [List.takeWhile_append_of_pos hnumeral, List.dropWhile_append_of_pos hnumeral, htake, hdrop, List.append_nil]
  exact ⟨rfl, rfl⟩

theorem parse_append {numeral : List Char} {suffix : String} {scale : Scale} (hne : numeral ≠ [])
    (hnumeral : ∀ c ∈ numeral, isNumeralChar c = true) (hscale : Scale.ofSuffix? suffix = some scale) :
    parse (String.ofList numeral ++ suffix) = scaled (String.ofList numeral ++ suffix) numeral scale := by
  have hletters := Scale.letters_of_ofSuffix? hscale
  have hsolid : ∀ c ∈ numeral ++ suffix.toList, Text.isBlank c = false := fun c hc =>
    (List.mem_append.1 hc).elim (fun h => isBlank_of_isNumeralChar (hnumeral c h)) fun h => (hletters c h).2
  have hsize : String.ofList (numeral ++ suffix.toList) = String.ofList numeral ++ suffix := by
    rw [String.ofList_append, String.ofList_toList]
  obtain ⟨htake, hdrop⟩ := split_append hnumeral hscale
  simp only [parse, String.toList_append, String.toList_ofList, Text.trimChars_eq_self hsolid, List.append_eq_nil_iff,
    hne, false_and, if_false, htake, hdrop, String.ofList_toList, hscale, hsize]

/-! ### Whole numerals -/

variable {ds : List Char}

theorem parse_digits {suffix : String} {scale : Scale} (hne : ds ≠ []) (hds : ds.all Char.isDigit = true)
    (hscale : Scale.ofSuffix? suffix = some scale) :
    parse (String.ofList ds ++ suffix) = scaled (String.ofList ds ++ suffix) ds scale :=
  parse_append hne (fun c hc => isNumeralChar_of_isDigit (List.all_eq_true.1 hds c hc)) hscale

theorem wholeValue?_digits (hne : ds ≠ []) (hds : ds.all Char.isDigit = true) :
    wholeValue? ds = if Text.digitsValue ds < sizeLimit then some (Text.digitsValue ds) else none := by
  simp only [wholeValue?, ne_eq, hne, not_false_eq_true, hds, true_and]

theorem doubleValue?_digits (hne : ds ≠ []) (hds : ds.all Char.isDigit = true) :
    doubleValue? ds =
      if Binary64.leastInfinite ≤ Text.digitsValue ds then none else some (Binary64.ofNat (Text.digitsValue ds)) := by
  have hwhole : ds.takeWhile Char.isDigit = ds := List.takeWhile_eq_self_iff.2 (List.all_eq_true.1 hds)
  have hplaces : ds.dropWhile Char.isDigit = [] := List.dropWhile_eq_nil_iff.2 (List.all_eq_true.1 hds)
  have hinfinite : (Binary64.ofQuotient (Text.digitsValue ds) 1).isInfinite = true ↔ _ :=
    Binary64.isInfinite_ofQuotient_iff Nat.one_pos
  rw [Nat.mul_one] at hinfinite
  simp only [doubleValue?, hwhole, hplaces, List.drop_nil, List.all_nil, List.append_nil, List.length_nil, ne_eq, hne,
    not_false_eq_true, and_self, if_true, Nat.pow_eq, Nat.pow_zero, hinfinite, Binary64.ofNat]

/-- A number with more than 64 bits keeps them as a double, also when it is multiplied by the bytes of a unit. -/
theorem sizeLimit_le_ceil {n : Nat} (h : sizeLimit ≤ n) (scale : Scale) :
    sizeLimit ≤ ((Binary64.ofNat n).scale scale.bytes).ceil := by
  have hlimit : sizeLimit = 2 ^ 64 := by decide
  rw [hlimit] at h ⊢
  have hnumeral : 2 ^ 64 * Binary64.one ≤ (Binary64.ofNat n).units := Binary64.two_pow_le_units_ofNat (by decide) h
  exact Binary64.le_ceil (Binary64.two_pow_le_units_scale scale.bytes_pos (by decide) hnumeral)

/-- **A size that is written as a number is read as that number.** -/
theorem bytes_toString {n : Nat} (h : n < sizeLimit) : (⟨toString n⟩ : Quantity).bytes = .ok n := by
  have hdigits : (Nat.toDigits 10 n).all Char.isDigit = true :=
    List.all_eq_true.2 fun c hc => Nat.isDigit_of_mem_toDigits (by decide) (by decide) hc
  have hwhole : wholeValue? (Nat.toDigits 10 n) = some n := by
    rw [wholeValue?_digits Nat.toDigits_ne_nil hdigits, Text.digitsValue_toDigits, if_pos h]
  have hparse : parse (String.ofList (Nat.toDigits 10 n) ++ "") = _ := parse_digits Nat.toDigits_ne_nil hdigits rfl
  rw [bytes, Nat.toString_eq_ofList_toDigits, ← String.append_empty (s := String.ofList _), hparse, scaled, hwhole]
  simp [Scale.bytes, h]

/-- A size that is read has no more than 64 bits. -/
theorem bytes_lt {q : Quantity} {n : Nat} (h : q.bytes = .ok n) : n < sizeLimit := by
  unfold bytes parse at h
  dsimp only at h
  split at h
  · simp at h
  · split at h
    · unfold scaled at h
      split at h
      · split at h
        · next hlt => exact Except.ok.inj h ▸ hlt
        · simp at h
      · split at h
        · obtain rfl := Except.ok.inj h
          exact Nat.lt_of_le_of_lt (Nat.min_le_right _ _) (by decide)
        · simp at h
    · simp at h

theorem bytesOrZero_lt {q : Option Quantity} {n : Nat} (h : bytesOrZero q = .ok n) : n < sizeLimit := by
  cases q with
  | none =>
    obtain rfl := Except.ok.inj h
    decide
  | some q => exact bytes_lt h

/-! ### Sizes that do not fit -/

/-- **A whole numeral of 64 bits is read exactly, or its size is refused.**  This is so with each of the thirteen
suffixes, which multiply it by their bytes.  A longer one is not refused: it is read as the largest size that there is,
unless it is infinite as a double. -/
theorem whole_numeral_is_read {suffix : String} {m : Nat} (hne : ds ≠ []) (hds : ds.all Char.isDigit = true)
    (hunit : (suffix, m) ∈ unitBytes) :
    let size := String.ofList ds ++ suffix
    let n := Text.digitsValue ds
    (n < sizeLimit → parse size = if n * m < sizeLimit then .ok (n * m) else .error (.overflow size)) ∧
    (sizeLimit ≤ n → n < Binary64.leastInfinite → parse size = .ok (sizeLimit - 1)) ∧
    (Binary64.leastInfinite ≤ n → parse size = .error (.malformed (String.ofList ds))) := by
  intro size n
  obtain ⟨scale, hscale, rfl⟩ := mem_unitBytes_iff.1 hunit
  have hparse : parse size = scaled size ds scale := parse_digits hne hds hscale
  have hwhole := wholeValue?_digits hne hds
  have hdouble := doubleValue?_digits hne hds
  have hlimit : sizeLimit ≤ Binary64.leastInfinite := by decide +kernel
  rw [hparse, scaled]
  refine ⟨fun hlt => ?_, fun hle hlt => ?_, fun hle => ?_⟩
  · rw [hwhole, if_pos hlt]
  · have hceil := sizeLimit_le_ceil hle scale
    rw [hwhole, if_neg (Nat.not_lt.2 hle), hdouble, if_neg (Nat.not_le.2 hlt)]
    exact congrArg Except.ok (Nat.min_eq_right (Nat.le_trans (Nat.sub_le _ _) hceil))
  · rw [hwhole, if_neg (Nat.not_lt.2 (Nat.le_trans hlimit hle)), hdouble, if_pos hle]

/-- Leading zeros make a numeral no longer.  Sixteen exbibytes are refused, and so is a row of nines that no double can
hold, but a numeral of 65 bits is not. -/
theorem whole_numeral_is_read_exbi :
    let read (numeral : String) := parse (String.ofList numeral.toList ++ "Ei")
    let nines := List.replicate 309 '9'
    read "0015" = .ok 17293822569102704640 ∧ read "16" = .error (.overflow "16Ei") ∧
      read "18446744073709551616" = .ok 18446744073709551615 ∧
      parse (String.ofList nines ++ "Ei") = .error (.malformed (String.ofList nines)) := by
  have hunit : ("Ei", 1024 ^ 6) ∈ unitBytes := by decide
  have hlaw (numeral : String) (hne : numeral.toList ≠ []) (hds : numeral.toList.all Char.isDigit = true) :=
    whole_numeral_is_read hne hds hunit
  refine ⟨?_, ?_, ?_, ?_⟩
  · exact ((hlaw "0015" (by decide) (by decide)).1 (by decide)).trans (by decide +kernel)
  · exact ((hlaw "16" (by decide) (by decide)).1 (by decide)).trans (by decide +kernel)
  · exact (hlaw "18446744073709551616" (by decide) (by decide)).2.1 (by decide) (by decide +kernel)
  · exact (whole_numeral_is_read (by decide) (by decide +kernel) hunit).2.2 (by decide +kernel)

/-- The least number with more than 64 bits is read as the number before it. -/
theorem longer_numeral_is_capped :
    ("", 1) ∈ unitBytes ∧ Text.digitsValue "18446744073709551616".toList = 18446744073709551616 ∧
      sizeLimit ≤ 18446744073709551616 * 1 ∧
      parse "18446744073709551616" = .ok 18446744073709551615 := by
  decide +kernel

end Quantity

end LocalVolumes
