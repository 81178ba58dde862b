import LocalVolumes.Yaml.Scalar.Plain
import LocalVolumes.Yaml.Style

/-!
# LocalVolumes.Proofs.Yaml.Style — how a text of printable ASCII is written

A text of printable ASCII is written plain or in single quotes, on one line.  If it is written plain, it holds nothing
that would end a plain scalar.
-/

namespace LocalVolumes.Yaml

/-- A text of the printable characters of ASCII. -/
def IsPrintableAscii (cs : List Char) : Prop := ∀ c ∈ cs, 0x20 ≤ c.toNat ∧ c.toNat ≤ 0x7E

instance (cs : List Char) : Decidable (IsPrintableAscii cs) :=
  decidable_of_iff (cs.all (fun c => 0x20 ≤ c.toNat && c.toNat ≤ 0x7E) = true) (by simp [IsPrintableAscii])

namespace IsPrintableAscii

variable {c : Char} {cs ds : List Char}

theorem ne_of_toNat {d : Char} (h : IsPrintableAscii cs) (hc : c ∈ cs) (hd : d.toNat < 0x20 ∨ 0x7E < d.toNat) :
    c ≠ d := by
  rintro rfl
  have := h c hc
  omega

theorem isBreak (h : IsPrintableAscii cs) (hc : c ∈ cs) : isBreak c = false := by
  simp only [Yaml.isBreak, Bool.or_eq_false_iff, beq_eq_false_iff_ne]
  exact ⟨⟨⟨⟨h.ne_of_toNat hc (by decide), h.ne_of_toNat hc (by decide)⟩, h.ne_of_toNat hc (by decide)⟩,
    h.ne_of_toNat hc (by decide)⟩, h.ne_of_toNat hc (by decide)⟩

theorem isBlank (h : IsPrintableAscii cs) (hc : c ∈ cs) (hs : c ≠ ' ') : isBlank c = false := by
  simp only [Yaml.isBlank, Bool.or_eq_false_iff, beq_eq_false_iff_ne]
  exact ⟨hs, h.ne_of_toNat hc (by decide)⟩

theorem isAllowed (h : IsPrintableAscii cs) (hc : c ∈ cs) : isAllowed c = true := by
  have := h c hc
  simp [Yaml.isAllowed, this]

theorem left (h : IsPrintableAscii (cs ++ ds)) : IsPrintableAscii cs := fun c hc => h c (List.mem_append_left _ hc)

theorem right (h : IsPrintableAscii (cs ++ ds)) : IsPrintableAscii ds := fun c hc => h c (List.mem_append_right _ hc)

theorem tail (h : IsPrintableAscii (c :: cs)) : IsPrintableAscii cs := fun d hd => h d (List.mem_cons_of_mem _ hd)

end IsPrintableAscii

/-- A text is at its end, or begins with what is neither white space nor a comment. -/
def IsSolid : List Char → Prop
  | [] => True
  | c :: _ => c ≠ '\ufeff' ∧ c ≠ '#' ∧ isBlank c = false ∧ isBreak c = false

theorem IsSolid.word {cs : List Char} (h : IsSolid cs) : cs = [] ∨ endsWord cs = false := by
  cases cs with
  | nil => exact .inl rfl
  | cons c cs => exact .inr (by simp only [endsWord, h.2.2.1, h.2.2.2, Bool.or_self])

/-! ### How a text is written -/

namespace Scalar

variable {s : String} {cs : List Char}

theorem hasPair_eq_false {p q : Char → Bool} (h : ∀ c ∈ cs, q c = false) : hasPair p q cs = false := by
  induction cs with
  | nil => rfl
  | cons c cs ih =>
    cases cs with
    | nil => rfl
    | cons d ds =>
      simp [hasPair, h d (by simp), ih fun x hx => h x (List.mem_cons_of_mem _ hx)]

theorem hasPair_eq_false_of_left {p q : Char → Bool} (h : ∀ c ∈ cs, p c = false) : hasPair p q cs = false := by
  induction cs with
  | nil => rfl
  | cons c cs ih =>
    cases cs with
    | nil => rfl
    | cons d ds =>
      simp [hasPair, h c (by simp), ih fun x hx => h x (List.mem_cons_of_mem _ hx)]

theorem needsEscapes_eq_false (h : IsPrintableAscii cs) : needsEscapes cs = false := by
  have hall : cs.all isPrintable = true := List.all_eq_true.2 fun c hc => by
    have := h c hc
    simp [isPrintable, this]
  simp [needsEscapes, hasPair_eq_false fun c hc => h.isBreak hc, hall]

/-- A text of printable ASCII is written plain, if it may be, or in single quotes. -/
theorem style_cases (h : IsPrintableAscii s.toList) :
    Style.ofText s = .plain ∧ s.toList ≠ [] ∧ admitsPlain s.toList = true ∨ Style.ofText s = .single := by
  have hbreak : s.toList.contains '\n' = false := by
    rw [List.contains_eq_mem, decide_eq_false_iff_not]
    exact fun hc => absurd rfl (h.ne_of_toNat hc (d := '\n') (by decide))
  have hsingle : admitsSingle s.toList = true := by
    simp [admitsSingle, needsEscapes_eq_false h, hasPair_eq_false_of_left fun c hc => h.isBreak hc]
  unfold Style.ofText
  simp only [hbreak, Bool.false_eq_true, if_false, hsingle, if_true]
  split
  · next hp =>
    simp only [Bool.and_eq_true, Bool.not_eq_true'] at hp
    refine .inl ⟨rfl, fun he => ?_, hp.2⟩
    obtain rfl : s = "" := String.toList_eq_nil_iff.1 he
    exact absurd hp.1 (by decide)
  · exact .inr rfl

/-- What a text that may stand plain begins with, ends with and holds. -/
theorem admitsPlain_spec (h : IsPrintableAscii cs) (ha : admitsPlain cs = true) :
    beginsIndicator cs = false ∧ cs.head? ≠ some ' ' ∧ cs.getLast? ≠ some ' ' ∧ holdsIndicator true cs = false := by
  simp only [admitsPlain, hasLooseEnd, Bool.and_eq_true, Bool.not_eq_true', Bool.or_eq_false_iff] at ha
  obtain ⟨⟨⟨⟨⟨⟨hhead, hlast⟩, -⟩, -⟩, -⟩, hbegins⟩, hholds⟩ := ha
  have hhead' : cs.head? ≠ some ' ' := fun he => by simp [he, isSpace] at hhead
  refine ⟨hbegins, hhead', fun he => by simp [he, isSpace] at hlast, ?_⟩
  cases cs with
  | nil => rfl
  | cons c cs =>
    have hblank : isBlank c = false := h.isBlank List.mem_cons_self (by simpa using hhead')
    have hbreak : isBreak c = false := h.isBreak List.mem_cons_self
    simp only [beginsIndicator, Bool.or_eq_false_iff] at hbegins
    have hhash : c ≠ '#' := by
      rintro rfl
      simp at hbegins
    have hcolon : (c == ':' && endsWord cs) = false := by
      by_cases hc : c = ':'
      · simpa [hc] using hbegins.2
      · simp [hc]
    simpa [holdsIndicator, hhash, hcolon, hblank, hbreak] using hholds

/-- A text between single quotes. -/
def quoted (cs : List Char) : List Char := '\'' :: (cs.flatMap singleChar ++ ['\''])

theorem indented_eq_flatMap (indent : Nat) (write : Char → List Char) (h : IsPrintableAscii cs) :
    indented indent write false cs = cs.flatMap write := by
  induction cs with
  | nil => rfl
  | cons c cs ih => simp [indented, h.isBreak List.mem_cons_self, ih h.tail]

theorem writeSingle_eq_quoted (indent : Nat) (h : IsPrintableAscii cs) : writeSingle indent cs = quoted cs := by
  have hlast : (cs.getLast?.map isBreak).getD false = false := by
    cases hl : cs.getLast? with
    | none => rfl
    | some c => exact h.isBreak (List.mem_of_getLast? hl)
  simp [writeSingle, quoted, indented_eq_flatMap indent singleChar h, hlast]

/-- A text as a scalar, without the end of its line. -/
def shown (s : String) : List Char := if Style.ofText s = .plain then s.toList else quoted s.toList

theorem write_eq_shown (indent : Nat) (h : IsPrintableAscii s.toList) : write indent s = shown s ++ ['\n'] := by
  rcases style_cases h with ⟨hs, -, -⟩ | hs
  · simp [write, shown, hs]
  · simp [write, shown, hs, writeSingle_eq_quoted indent h]

end Scalar

end LocalVolumes.Yaml
