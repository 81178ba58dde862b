import LocalVolumes.Proofs.Quantity
import LocalVolumes.Timestamp
import Mathlib.Data.Nat.Digits.Defs

/-!
# LocalVolumes.Proofs.Timestamp — points in time survive being written

A point in time is written in UTC with whole seconds, in rows of digits with marks between them.  Whoever reads that
text gets the same point in time, also for years before the first and for those of more than four digits.
-/

namespace LocalVolumes

namespace Text

/-! ### Rows of digits of a width -/

theorem isDigit_of_mem_paddedDecimal {w n : Nat} {c : Char} (h : c ∈ paddedDecimal w n) : c.isDigit = true := by
  rcases List.mem_append.1 h with hzero | hdigit
  · rw [List.eq_of_mem_replicate hzero]
    rfl
  · exact Nat.isDigit_of_mem_toDigits (by decide) (by decide) hdigit

theorem paddedDecimal_ne_nil (w n : Nat) : paddedDecimal w n ≠ [] :=
  List.append_ne_nil_of_right_ne_nil _ Nat.toDigits_ne_nil

theorem digitsValue_paddedDecimal (w n : Nat) : digitsValue (paddedDecimal w n) = n := by
  have hzeros (k : Nat) : (List.replicate k '0').foldl (fun n d => 10 * n + (d.toNat - '0'.toNat)) 0 = 0 := by
    induction k with
    | zero => rfl
    | succ k ih => rw [List.replicate_succ, List.foldl_cons]; exact ih
  rw [paddedDecimal, digitsValue, List.foldl_append, hzeros]
  exact digitsValue_toDigits n

theorem length_paddedDecimal {w n : Nat} (hw : 0 < w) (h : n < 10 ^ w) : (paddedDecimal w n).length = w := by
  have hle := Nat.toDigits_length 10 n w hw h
  rw [paddedDecimal, List.length_append, List.length_replicate]
  omega

end Text

namespace Timestamp

/-! ### Numbers and marks -/

theorem skipBlank_cons {c : Char} (h : Text.isBlank c = false) (cs : List Char) : skipBlank (c :: cs) = c :: cs := by
  rw [skipBlank, List.dropWhile_cons, if_neg (Bool.eq_false_iff.1 h)]

theorem mark?_cons {c : Char} (h : Text.isBlank c = false) (cs : List Char) : mark? c (c :: cs) = some cs := by
  rw [mark?, skipBlank_cons h]
  exact if_pos rfl

/-- A row of digits is read up to its end, which is where the width is reached or another character follows. -/
theorem digits?_append {width : Nat} {ds rest : List Char} (hne : ds ≠ []) (hds : ∀ c ∈ ds, c.isDigit = true)
    (hle : ds.length ≤ width) (hend : ds.length = width ∨ ∀ c ∈ rest.head?, c.isDigit = false) :
    digits? width (ds ++ rest) = some (Text.digitsValue ds, rest) := by
  have hrest : (rest.take (width - ds.length)).takeWhile Char.isDigit = [] := by
    rcases hend with hfull | hmark
    · rw [hfull, Nat.sub_self, List.take_zero, List.takeWhile_nil]
    · cases rest with
      | nil => rw [List.take_nil, List.takeWhile_nil]
      | cons c rest =>
        have hc : c.isDigit = false := hmark c rfl
        cases width - ds.length with
        | zero => rw [List.take_zero, List.takeWhile_nil]
        | succ k => rw [List.take_succ_cons, List.takeWhile_cons, if_neg (Bool.eq_false_iff.1 hc)]
  have htake : ((ds ++ rest).take width).takeWhile Char.isDigit = ds := by
    rw [List.take_append, List.take_of_length_le hle, List.takeWhile_append_of_pos hds, hrest, List.append_nil]
  simp only [digits?, htake, hne, if_false, List.drop_left]

theorem digits?_paddedDecimal {width w n : Nat} {rest : List Char} (hle : (Text.paddedDecimal w n).length ≤ width)
    (hend : (Text.paddedDecimal w n).length = width ∨ ∀ c ∈ rest.head?, c.isDigit = false) :
    digits? width (Text.paddedDecimal w n ++ rest) = some (n, rest) := by
  have hds : ∀ c ∈ Text.paddedDecimal w n, c.isDigit = true := fun _ => Text.isDigit_of_mem_paddedDecimal
  rw [digits?_append (Text.paddedDecimal_ne_nil w n) hds hle hend, Text.digitsValue_paddedDecimal]

theorem skipBlank_paddedDecimal (w n : Nat) (rest : List Char) :
    skipBlank (Text.paddedDecimal w n ++ rest) = Text.paddedDecimal w n ++ rest := by
  obtain ⟨d, ds, hcons⟩ := List.exists_cons_of_ne_nil (Text.paddedDecimal_ne_nil w n)
  have hd : d.isDigit = true := Text.isDigit_of_mem_paddedDecimal (hcons ▸ List.mem_cons_self)
  rw [hcons]
  exact skipBlank_cons (Text.isBlank_of_isDigit hd) _

theorem number?_paddedDecimal {n : Nat} (h : n < 100) (rest : List Char) :
    number? (Text.paddedDecimal 2 n ++ rest) = some (n, rest) := by
  have hlength : (Text.paddedDecimal 2 n).length = 2 := Text.length_paddedDecimal (by decide) h
  rw [number?, skipBlank_paddedDecimal, digits?_paddedDecimal hlength.le (.inl hlength)]

/-! ### Days -/

/-- A year without a sign has at most four digits. -/
theorem year?_digits {n : Nat} (h : n < 10000) (rest : List Char) :
    year? (Text.paddedDecimal 4 n ++ rest) = some ((n : Int), rest) := by
  have hlength : (Text.paddedDecimal 4 n).length = 4 := Text.length_paddedDecimal (by decide) h
  have hdigits : digits? 4 (Text.paddedDecimal 4 n ++ rest) = some (n, rest) :=
    digits?_paddedDecimal hlength.le (.inl hlength)
  have hskip := skipBlank_paddedDecimal 4 n rest
  obtain ⟨d, ds, hcons⟩ := List.exists_cons_of_ne_nil (Text.paddedDecimal_ne_nil 4 n)
  have hd : d.isDigit = true := Text.isDigit_of_mem_paddedDecimal (hcons ▸ List.mem_cons_self)
  rw [hcons] at hdigits hskip ⊢
  unfold year?
  split
  -- a digit is no sign
  · next h =>
    have hsign : d = '-' := (List.cons.inj (hskip.symm.trans h)).1
    exact absurd (hsign ▸ hd) (by decide)
  · next h =>
    have hsign : d = '+' := (List.cons.inj (hskip.symm.trans h)).1
    exact absurd (hsign ▸ hd) (by decide)
  · rw [hskip, hdigits, Option.map_some]

/-- A year with a sign ends at the mark after it. -/
theorem year?_signed (n : Nat) (rest : List Char) :
    year? ('-' :: (Text.paddedDecimal 4 n ++ '-' :: rest)) = some (-(n : Int), '-' :: rest) ∧
      year? ('+' :: (Text.paddedDecimal 4 n ++ '-' :: rest)) = some ((n : Int), '-' :: rest) := by
  have hle : (Text.paddedDecimal 4 n).length ≤ (Text.paddedDecimal 4 n ++ '-' :: rest).length := by
    rw [List.length_append]
    exact Nat.le_add_right _ _
  have hmark : ∀ c ∈ ('-' :: rest).head?, c.isDigit = false := fun c hc => Option.some.inj hc ▸ rfl
  have hminus : Text.isBlank '-' = false := by decide
  have hplus : Text.isBlank '+' = false := by decide
  constructor
  · simp only [year?, skipBlank_cons hminus, digits?_paddedDecimal hle (.inr hmark), Option.map_some]
  · simp only [year?, skipBlank_cons hplus, digits?_paddedDecimal hle (.inr hmark), Option.map_some]

theorem year?_text (year : Int) (rest : List Char) :
    year? ((if year < 0 then '-' :: Text.paddedDecimal 4 year.natAbs
      else if 9999 < year then '+' :: Text.paddedDecimal 4 year.natAbs
      else Text.paddedDecimal 4 year.natAbs) ++ '-' :: rest) = some (year, '-' :: rest) := by
  split
  · next hbefore =>
    rw [List.cons_append, (year?_signed _ rest).1, Int.ofNat_natAbs_of_nonpos hbefore.le, Int.neg_neg]
  · next hafter =>
    have hyear : (year.natAbs : Int) = year := Int.natAbs_of_nonneg (Int.not_lt.1 hafter)
    split
    · rw [List.cons_append, (year?_signed _ rest).2, hyear]
    · next hshort => rw [year?_digits (by omega), hyear]

theorem daysIn_le (year : Int) (month : Nat) : daysIn year month ≤ 31 := by
  unfold daysIn
  split
  · split <;> decide
  · split <;> decide

theorem day?_text (d : Day) (rest : List Char) : day? (d.text ++ rest) = some (d, rest) := by
  obtain ⟨year, month, day, hexists⟩ := d
  have hparts : Day.ofParts? year month day = some ⟨year, month, day, hexists⟩ := dif_pos hexists
  have hbounds := hexists
  simp only [isDay, Bool.and_eq_true, decide_eq_true_eq] at hbounds
  have hmonth : month < 100 := by omega
  have hday : day < 100 := by have := daysIn_le year month; omega
  have hdash : Text.isBlank '-' = false := by decide
  simp only [day?, Day.text, List.append_assoc, List.cons_append, year?_text, mark?_cons hdash,
    number?_paddedDecimal hmonth, number?_paddedDecimal hday, hparts, Option.bind_eq_bind, Option.bind_some]
  rfl

/-! ### Points in time -/

/-- A point in time lies within its day, and its second within a minute, which may have 61 of them. -/
structure IsValid (t : Timestamp) : Prop where
  minute : t.minute < 1440
  second : t.second ≤ 60

instance (t : Timestamp) : Decidable t.IsValid :=
  decidable_of_iff (t.minute < 1440 ∧ t.second ≤ 60) ⟨fun h => ⟨h.1, h.2⟩, fun h => ⟨h.1, h.2⟩⟩

theorem clockTime?_text {minute second : Nat} (hminute : minute < 1440) (hsecond : second ≤ 60) (rest : List Char)
    (hrest : rest.head? ≠ some '.') :
    clockTime? (Text.paddedDecimal 2 (minute / 60) ++ ':' :: (Text.paddedDecimal 2 (minute % 60) ++
      ':' :: (Text.paddedDecimal 2 second ++ rest))) = some ((minute, second), rest) := by
  have hcolon : Text.isBlank ':' = false := by decide
  have hfraction : skipFraction? rest = some rest := by
    unfold skipFraction?
    split
    · exact absurd rfl hrest
    · rfl
  have hhours : minute / 60 < 24 := by omega
  have hwhole : 60 * (minute / 60) + minute % 60 = minute := Nat.div_add_mod minute 60
  have hrange : minute / 60 < 24 ∧ minute % 60 < 60 ∧ second ≤ 60 := ⟨hhours, Nat.mod_lt _ (by decide), hsecond⟩
  simp only [clockTime?, number?_paddedDecimal (show minute / 60 < 100 by omega),
    number?_paddedDecimal (show minute % 60 < 100 by omega), number?_paddedDecimal (show second < 100 by omega),
    mark?_cons hcolon, hfraction, Option.bind_eq_bind, Option.bind_some, if_pos hrange, hwhole]

/-- **A point in time that is written is read as the same.** -/
theorem ofText?_text {t : Timestamp} (h : t.IsValid) : ofText? t.text = some t := by
  obtain ⟨day, minute, second⟩ := t
  have hmark : [('T' : Char), 't', ' '].contains 'T' = true := by decide
  have hutc : offset? (skipBlank ['Z']) = some (0, []) := by decide
  have hlocal : ofLocal? day minute second 0 = some ⟨day, minute, second⟩ := by
    have hminute : minute < 1440 := h.minute
    simp only [ofLocal?, Int.sub_zero]
    rw [if_neg (by omega), if_neg (by omega), Int.toNat_natCast]
  have hclock := clockTime?_text h.minute h.second ['Z'] (by decide)
  simp only [ofText?, text, String.toList_ofList, List.append_assoc, List.cons_append, day?_text,
    Option.bind_eq_bind, Option.bind_some, hmark, if_true, hclock, hutc, hlocal]
  rfl

/-- Clocks are less than a day ahead or behind. -/
theorem offset?_bounds {cs rest : List Char} {ahead : Int} (h : offset? cs = some (ahead, rest)) :
    -1440 < ahead ∧ ahead < 1440 := by
  unfold offset? at h
  split at h
  · obtain ⟨rfl, -⟩ := Prod.mk.inj (Option.some.inj h)
    decide
  · split at h
    · cases h
    · split at h
      · obtain ⟨rfl, -⟩ := Prod.mk.inj (Option.some.inj h)
        decide
      · split at h
        · simp only [Option.bind_eq_bind, Option.bind_eq_some_iff] at h
          obtain ⟨⟨hours, _⟩, -, ⟨minutes, _⟩, -, h⟩ := h
          dsimp only at h
          split at h
          · next hrange =>
            obtain ⟨hhours, hminutes⟩ := hrange
            obtain ⟨rfl, -⟩ := Prod.mk.inj (Option.some.inj h)
            split <;> omega
          · cases h
        · cases h

theorem clockTime?_bounds {cs rest : List Char} {minute second : Nat}
    (h : clockTime? cs = some ((minute, second), rest)) : minute < 1440 ∧ second ≤ 60 := by
  simp only [clockTime?, Option.bind_eq_bind, Option.bind_eq_some_iff] at h
  obtain ⟨⟨hour, _⟩, -, _, -, ⟨m, _⟩, -, _, -, ⟨s, _⟩, -, _, -, h⟩ := h
  dsimp only at h
  split at h
  · next hrange =>
    obtain ⟨hclock, -⟩ := Prod.mk.inj (Option.some.inj h)
    obtain ⟨rfl, rfl⟩ := Prod.mk.inj hclock
    omega
  · cases h

theorem isValid_of_ofLocal? {day : Day} {minute second : Nat} {ahead : Int} {t : Timestamp} (hminute : minute < 1440)
    (hsecond : second ≤ 60) (hahead : -1440 < ahead ∧ ahead < 1440) (h : ofLocal? day minute second ahead = some t) :
    t.IsValid := by
  unfold ofLocal? at h
  dsimp only at h
  split at h
  · obtain ⟨_, -, rfl⟩ := Option.map_eq_some_iff.1 h
    exact ⟨by dsimp only; omega, hsecond⟩
  · split at h
    · obtain ⟨_, -, rfl⟩ := Option.map_eq_some_iff.1 h
      exact ⟨by dsimp only; omega, hsecond⟩
    · obtain rfl := Option.some.inj h
      exact ⟨by dsimp only; omega, hsecond⟩

/-- Only points in time that are there are read. -/
theorem isValid_of_ofText? {s : String} {t : Timestamp} (h : ofText? s = some t) : t.IsValid := by
  simp only [ofText?, Option.bind_eq_bind, Option.bind_eq_some_iff] at h
  obtain ⟨⟨day, cs⟩, -, h⟩ := h
  cases cs with
  | nil => simp at h
  | cons mark cs =>
    dsimp only at h
    split at h
    · simp only [Option.bind_eq_some_iff] at h
      obtain ⟨⟨⟨minute, second⟩, cs⟩, hclock, ⟨ahead, rest⟩, hoffset, h⟩ := h
      dsimp only at h
      split at h
      · obtain ⟨hminute, hsecond⟩ := clockTime?_bounds hclock
        exact isValid_of_ofLocal? hminute hsecond (offset?_bounds hoffset) h
      · cases h
    · cases h

end Timestamp

end LocalVolumes
