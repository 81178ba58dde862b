import LocalVolumes.Proofs.Yaml.Style
import LocalVolumes.Yaml.Scalar.Quoted

/-!
# LocalVolumes.Proofs.Yaml.Scalar — a scalar that was written is read back

Both scanners go through a text by words and the spaces between them, so their laws are by induction on the words: a
scan takes one word, then the spaces after it, and what is left is a shorter text.
-/

namespace LocalVolumes.Yaml

/-! ### Words and spaces -/

variable {cs r tail : List Char} {i l k fuel : Nat} {col : Nat}

theorem Cursor.skipBreak_newline (r : List Char) (i l col : Nat) :
    Cursor.skipBreak ⟨'\n' :: r, i, l, col⟩ = ⟨r, i + 1, l + 1, 0⟩ := rfl

/-- A text is a word, spaces, and a shorter text. -/
theorem exists_word (cs : List Char) :
    ∃ w j r, cs = w ++ (List.replicate j ' ' ++ r) ∧ ' ' ∉ w ∧ r.head? ≠ some ' ' ∧ (j = 0 → r = []) := by
  induction cs with
  | nil => exact ⟨[], 0, [], rfl, by simp, by simp, fun _ => rfl⟩
  | cons c cs ih =>
    obtain ⟨w, j, r, rfl, hw, hr, hj⟩ := ih
    by_cases hc : c = ' '
    · subst hc
      cases w with
      | nil => exact ⟨[], j + 1, r, by simp [List.replicate_succ], by simp, hr, by simp⟩
      | cons d w => exact ⟨[], 1, d :: w ++ (List.replicate j ' ' ++ r), rfl, by simp, by grind, by simp⟩
    · exact ⟨c :: w, j, r, rfl, by simp [hw, Ne.symm hc], hr, hj⟩

/-- What the white space after a word is, if the text goes on. -/
theorem scanGap_spaces (k i l col : Nat) (h : r = [] ∨ endsWord r = false) (g : Gap) (hg : g.broken = false) (j : Nat)
    (hf : j < fuel) :
    scanGap k fuel ⟨List.replicate j ' ' ++ r, i, l, col⟩ g =
      some (⟨r, i + j, l, col + j⟩, { g with blanks := List.replicate j ' ' ++ g.blanks }) := by
  induction j generalizing i col fuel g with
  | zero =>
    obtain ⟨fuel, rfl⟩ : ∃ m, fuel = m + 1 := ⟨fuel - 1, by omega⟩
    cases r with
    | nil => simp [scanGap]
    | cons c r =>
      simp only [endsWord, Bool.or_eq_false_iff, reduceCtorEq, false_or] at h
      simp [scanGap, h]
  | succ j ih =>
    obtain ⟨fuel, rfl⟩ : ∃ m, fuel = m + 1 := ⟨fuel - 1, by omega⟩
    have hblank : isBlank ' ' = true := rfl
    simp only [List.replicate_succ, List.cons_append, scanGap, hblank, if_true, hg, Bool.false_eq_true, if_false,
      Cursor.skip, List.tail_cons]
    rw [ih _ _ _ (by simp) (by omega)]
    have hcons : List.replicate j ' ' ++ ' ' :: g.blanks = ' ' :: (List.replicate j ' ' ++ g.blanks) := by
      rw [← List.singleton_append, ← List.append_assoc, ← List.replicate_succ', List.replicate_succ, List.cons_append]
    simp [hcons]
    omega

theorem scanGap_indent (h : r = [] ∨ endsWord r = false) (g : Gap) (hg : g.broken = true) (m : Nat) (hf : m < fuel) :
    scanGap k fuel ⟨List.replicate m ' ' ++ r, i, l, col⟩ g = some (⟨r, i + m, l, col + m⟩, g) := by
  induction m generalizing i col fuel with
  | zero =>
    obtain ⟨fuel, rfl⟩ : ∃ m, fuel = m + 1 := ⟨fuel - 1, by omega⟩
    cases r with
    | nil => simp [scanGap]
    | cons c r =>
      simp only [endsWord, Bool.or_eq_false_iff, reduceCtorEq, false_or] at h
      simp [scanGap, h]
  | succ m ih =>
    obtain ⟨fuel, rfl⟩ : ∃ m, fuel = m + 1 := ⟨fuel - 1, by omega⟩
    have hblank : isBlank ' ' = true := rfl
    have htab : (' ' == '\t') = false := rfl
    simp only [List.replicate_succ, List.cons_append, scanGap, hblank, if_true, hg, htab, Bool.false_and,
      Bool.false_eq_true, if_false, Cursor.skip, List.tail_cons]
    rw [ih (by omega)]
    simp only [Option.some.injEq, Prod.mk.injEq, Cursor.mk.injEq, and_true, true_and]
    omega

/-- The end of a line and the indentation of the next one. -/
theorem scanGap_line (k i l col : Nat) (h : r = [] ∨ endsWord r = false) (m : Nat) (hf : m + 1 < fuel) :
    ∃ g : Gap, g.broken = true ∧
      scanGap k fuel ⟨'\n' :: (List.replicate m ' ' ++ r), i, l, col⟩ {} =
        some (⟨r, i + 1 + m, l + 1, m⟩, g) := by
  obtain ⟨fuel, rfl⟩ : ∃ m, fuel = m + 1 := ⟨fuel - 1, by omega⟩
  have hblank : isBlank '\n' = false := rfl
  have hbreak : isBreak '\n' = true := rfl
  refine ⟨{ first := [breakText '\n'], broken := true }, rfl, ?_⟩
  simp only [scanGap, hblank, hbreak, Bool.false_eq_true, if_false, if_true, Cursor.skipBreak_newline]
  rw [scanGap_indent h _ rfl m (by omega)]
  simp

/-! ### Plain scalars -/

theorem endsWord_append (cs ds : List Char) (h : endsWord ds = true) : endsWord (cs ++ ds) = endsWord cs := by
  cases cs with
  | nil => rw [List.nil_append, h, endsWord]
  | cons c cs => rfl

namespace Scalar

/-- In a text that holds no indicator, what comes after a character holds none, and no word ends after a colon. -/
theorem holdsIndicator_of_append {w r : List Char} {c : Char} {ab : Bool}
    (h : holdsIndicator ab (w ++ c :: r) = false) :
    holdsIndicator (isBlank c || isBreak c) r = false ∧ (c = ':' → endsWord r = false) := by
  induction w generalizing ab with
  | nil =>
    simp only [List.nil_append, holdsIndicator, Bool.or_eq_false_iff] at h
    exact ⟨h.2, fun hc => by simpa [hc] using h.1.1⟩
  | cons d w ih =>
    simp only [List.cons_append, holdsIndicator, Bool.or_eq_false_iff] at h
    exact ih h.2

namespace Plain

/-- A word up to white space, or to a colon that ends it. -/
theorem scanWord_until {w r : List Char} (i l col : Nat) (hw : ' ' ∉ w) (hp : IsPrintableAscii w)
    (hcolon : ∀ u v, w = u ++ ':' :: v → endsWord (v ++ r) = false)
    (hr : endsWord r = true ∨ ∃ r', r = ':' :: r' ∧ endsWord r' = true) (hf : w.length < fuel) (acc : List Char) :
    scanWord false fuel ⟨w ++ r, i, l, col⟩ acc =
      some (⟨r, i + w.length, l, col + w.length⟩, w.reverse ++ acc) := by
  have hmisplaced (cs : List Char) : misplacedColon false cs = false := by
    unfold misplacedColon
    split <;> simp
  induction w generalizing i col fuel acc with
  | nil =>
    obtain ⟨fuel, rfl⟩ : ∃ m, fuel = m + 1 := ⟨fuel - 1, by simp at hf; omega⟩
    rcases hr with hr | ⟨r', rfl, hr'⟩
    · simp [scanWord, hr]
    · have hend : endsWord (':' :: r') = false := rfl
      simp [scanWord, hend, hmisplaced, stopsAt, hr']
  | cons c w ih =>
    obtain ⟨fuel, rfl⟩ : ∃ m, fuel = m + 1 := ⟨fuel - 1, by simp at hf; omega⟩
    simp only [List.mem_cons, not_or] at hw
    have hc : (isBlank c || isBreak c) = false := by
      rw [hp.isBlank List.mem_cons_self (Ne.symm hw.1), hp.isBreak List.mem_cons_self, Bool.or_false]
    have hstop : stopsAt false (c :: (w ++ r)) = false := by
      by_cases hcol : c = ':'
      · subst hcol
        exact hcolon [] w rfl
      · simp [stopsAt]
    simp only [scanWord, List.cons_append, endsWord, hc, hmisplaced, hstop, Bool.false_eq_true, if_false, Cursor.skip,
      List.tail_cons]
    rw [ih _ _ hw.2 hp.tail (fun u v h => hcolon (c :: u) v (by rw [h]; rfl)) (by simpa using hf)]
    simp
    omega

/-- A word of a scalar up to the white space after it. -/
theorem scanWord_eq {w r : List Char} {ab : Bool} (tail : List Char) (i l col : Nat) (hw : ' ' ∉ w)
    (hp : IsPrintableAscii w) (hi : holdsIndicator ab (w ++ r) = false) (hr : endsWord r = true)
    (hf : w.length < fuel) (acc : List Char) :
    scanWord false fuel ⟨w ++ (r ++ '\n' :: tail), i, l, col⟩ acc =
      some (⟨r ++ '\n' :: tail, i + w.length, l, col + w.length⟩, w.reverse ++ acc) := by
  refine scanWord_until i l col hw hp (fun u v h => ?_) (.inl ((endsWord_append r _ rfl).trans hr)) hf acc
  rw [h, List.append_assoc, List.cons_append] at hi
  rw [← List.append_assoc, endsWord_append _ _ rfl]
  exact (holdsIndicator_of_append hi).2 rfl

theorem endsWord_replicate_append (j : Nat) (h : j = 0 → r = []) : endsWord (List.replicate j ' ' ++ r) = true := by
  cases j with
  | zero => rw [h rfl]; rfl
  | succ j => rfl

/-- One word of a scalar, and what comes after the white space behind it. -/
theorem scanWords_word {w r : List Char} (hw : ' ' ∉ w) (hne : w ≠ []) (hp : IsPrintableAscii w)
    (hi : holdsIndicator true (w ++ r) = false) (hr : endsWord r = true) (hcol : col ≠ 0) (acc : List Char) (g : Gap) :
    scanWords false k (fuel + 1) ⟨w ++ (r ++ '\n' :: tail), i, l, col⟩ acc g =
      match scanGap k ((r ++ '\n' :: tail).length + 1) ⟨r ++ '\n' :: tail, i + w.length, l, col + w.length⟩ {} with
      | none => none
      | some (c, g') =>
        if c.column < k then some (c, w.reverse ++ (g.folded ++ acc), g'.broken)
        else scanWords false k fuel c (w.reverse ++ (g.folded ++ acc)) g' := by
  have hstart : (Cursor.atMark ⟨w ++ (r ++ '\n' :: tail), i, l, col⟩ ||
      (w ++ (r ++ '\n' :: tail)).head? == some '#') = false := by
    obtain ⟨c, w, rfl⟩ := List.exists_cons_of_ne_nil hne
    have hhash : c ≠ '#' := by
      rintro rfl
      simp [holdsIndicator] at hi
    simp [Cursor.atMark, hcol, hhash]
  have hgo : (decide (r ++ '\n' :: tail = []) || !endsWord (r ++ '\n' :: tail)) = false := by
    rw [endsWord_append r _ rfl, hr]
    simp
  have hlen : w.length < (w ++ (r ++ '\n' :: tail)).length + 1 := by
    rw [List.length_append]
    omega
  have hword := scanWord_eq tail i l col hw hp hi hr hlen []
  rw [scanWords]
  rcases hgap : scanGap k ((r ++ '\n' :: tail).length + 1) ⟨r ++ '\n' :: tail, i + w.length, l, col + w.length⟩ {}
    with _ | ⟨c, g'⟩ <;>
  simp only [hstart, hword, hgo, hgap, Bool.false_eq_true, if_false, List.append_nil, List.reverse_eq_nil_iff, hne,
    Bool.not_false, Bool.true_and, decide_eq_true_eq]

/-- The words of a scalar up to the end of its line, and the indentation of the next line. -/
theorem scanWords_eq {m : Nat} (i l col fuel : Nat) (htail : tail = [] ∨ endsWord tail = false) (hm : m < k)
    (acc : List Char) (g : Gap) (hp : IsPrintableAscii cs) (hne : cs ≠ []) (hhead : cs.head? ≠ some ' ')
    (hlast : cs.getLast? ≠ some ' ')
    (hi : holdsIndicator true cs = false) (hcol : k ≤ col) (hf : cs.length < fuel) :
    ∃ i', scanWords false k fuel ⟨cs ++ '\n' :: (List.replicate m ' ' ++ tail), i, l, col⟩ acc g =
      some (⟨tail, i', l + 1, m⟩, cs.reverse ++ (g.folded ++ acc), true) := by
  induction h : cs.length using Nat.strongRecOn generalizing cs i col fuel acc g with
  | _ n ih =>
  obtain ⟨w, j, r, rfl, hw, hr, hj⟩ := exists_word cs
  have hwne : w ≠ [] := by
    rintro rfl
    cases j with
    | zero => simp [hj rfl] at hne
    | succ j => simp [List.replicate_succ] at hhead
  have hlen : 0 < w.length := List.length_pos_iff.2 hwne
  simp only [List.length_append, List.length_replicate] at h hf
  obtain ⟨fuel, rfl⟩ : ∃ m, fuel = m + 1 := ⟨fuel - 1, by omega⟩
  rw [List.append_assoc, scanWords_word hw hwne hp.left hi (endsWord_replicate_append j hj) (by omega)]
  by_cases hr0 : r = []
  · subst hr0
    -- the line does not end with a space
    cases j with
    | succ j => simp [List.replicate_succ'] at hlast
    | zero =>
    have hfuel : m + 1 < ('\n' :: (List.replicate m ' ' ++ tail)).length + 1 := by
      rw [List.length_cons, List.length_append, List.length_replicate]
      omega
    obtain ⟨g', hbroken, hgap⟩ := scanGap_line k (i + w.length) l (col + w.length) htail m hfuel
    refine ⟨i + w.length + 1 + m, ?_⟩
    simp only [List.replicate_zero, List.nil_append, hgap, hm, if_true, hbroken, List.append_nil]
  · have hrest : endsWord (r ++ '\n' :: (List.replicate m ' ' ++ tail)) = false := by
      obtain ⟨c, r, rfl⟩ := List.exists_cons_of_ne_nil hr0
      have hc : c ∈ c :: r := List.mem_cons_self
      simp only [List.cons_append, endsWord, hp.right.right.isBreak hc, hp.right.right.isBlank hc (by simpa using hr),
        Bool.or_self]
    have hfuel : j < (List.replicate j ' ' ++ (r ++ '\n' :: (List.replicate m ' ' ++ tail))).length + 1 := by
      rw [List.length_append, List.length_replicate]
      omega
    have hgap := scanGap_spaces k (i + w.length) l (col + w.length) (.inr hrest) {} rfl j hfuel
    have hi' : holdsIndicator true r = false := by
      cases j with
      | zero => exact absurd (hj rfl) hr0
      | succ j =>
        rw [List.replicate_succ', ← List.append_assoc, ← List.append_assoc, List.append_assoc, List.singleton_append]
          at hi
        exact (holdsIndicator_of_append hi).1
    have hlast' : r.getLast? ≠ some ' ' := fun he => hlast (by simp [List.getLast?_append, he])
    obtain ⟨i', hgo⟩ := ih r.length (by omega) (i + w.length + j) (col + w.length + j) fuel
      (w.reverse ++ (g.folded ++ acc)) { blanks := List.replicate j ' ' } hp.right.right hr0 hr hlast' hi'
      (by omega) (by omega) rfl
    refine ⟨i', ?_⟩
    have hcol' : ¬ col + w.length + j < k := by omega
    simp only [List.append_assoc, hgap, hcol', if_false, List.append_nil, hgo]
    have hfolded : Gap.folded { blanks := List.replicate j ' ' } = List.replicate j ' ' := rfl
    simp only [hfolded, List.reverse_append, List.reverse_replicate, List.append_assoc]

/-- A key up to its colon. -/
theorem scan_key {w r : List Char} (k i l : Nat) (hw : ' ' ∉ w) (hc : ':' ∉ w) (hp : IsPrintableAscii w)
    (hh : w.head? ≠ some '#') (hne : w ≠ []) (hr : endsWord r = true) (hcol : col ≠ 0) :
    scan false k ⟨w ++ ':' :: r, i, l, col⟩ =
      some (⟨':' :: r, i + w.length, l, col + w.length⟩, String.ofList w, false) := by
  have hstart : (Cursor.atMark ⟨w ++ ':' :: r, i, l, col⟩ || (w ++ ':' :: r).head? == some '#') = false := by
    obtain ⟨c, w, rfl⟩ := List.exists_cons_of_ne_nil hne
    simpa [Cursor.atMark, hcol] using hh
  have hlen : w.length < (w ++ ':' :: r).length + 1 := by
    rw [List.length_append]
    omega
  have hword := scanWord_until i l col hw hp
    (fun u v h => absurd (h ▸ List.mem_append_right u List.mem_cons_self) hc) (.inr ⟨r, rfl, hr⟩) hlen []
  have hstop : endsWord (':' :: r) = false := rfl
  unfold scan
  rw [scanWords]
  simp only [hstart, hword, hstop, hne, Bool.false_eq_true, if_false, List.append_nil, List.reverse_eq_nil_iff,
    Bool.not_false, Bool.or_true, if_true, List.reverse_reverse, Gap.folded]

/-- A text that may stand plain, up to the end of its line, and the indentation of the next line. -/
theorem scan_eq {m : Nat} (i l : Nat) (hp : IsPrintableAscii cs) (hne : cs ≠ []) (ha : admitsPlain cs = true)
    (htail : tail = [] ∨ endsWord tail = false) (hm : m < k) (hcol : k ≤ col) :
    ∃ i', scan false k ⟨cs ++ '\n' :: (List.replicate m ' ' ++ tail), i, l, col⟩ =
      some (⟨tail, i', l + 1, m⟩, String.ofList cs, true) := by
  obtain ⟨-, hhead, hlast, hi⟩ := admitsPlain_spec hp ha
  have hpos : 0 < cs.length := List.length_pos_iff.2 hne
  have hlen : cs.length < (cs ++ '\n' :: (List.replicate m ' ' ++ tail)).length + 1 := by
    rw [List.length_append]
    omega
  obtain ⟨i', h⟩ := scanWords_eq i l col _ htail hm [] {} hp hne hhead hlast hi hcol hlen
  refine ⟨i', ?_⟩
  simp only [scan, h]
  simp [Gap.folded]

end Plain

namespace Quoted

theorem flatMap_singleChar_replicate (j : Nat) : (List.replicate j ' ').flatMap singleChar = List.replicate j ' ' := by
  induction j with
  | zero => rfl
  | succ j ih => rw [List.replicate_succ, List.flatMap_cons, ih]; rfl

/-- A word between single quotes, up to white space or to the quote that ends the scalar. -/
theorem scanRun_word {w r : List Char} (i l col : Nat) (hw : ' ' ∉ w) (hp : IsPrintableAscii w)
    (hr : endsWord r = true ∨ ∃ r', r = '\'' :: '\n' :: r') (hf : w.length < fuel) (acc : List Char) :
    scanRun true fuel ⟨w.flatMap singleChar ++ r, i, l, col⟩ acc =
      some (⟨r, i + (w.flatMap singleChar).length, l, col + (w.flatMap singleChar).length⟩, w.reverse ++ acc,
        false) := by
  induction w generalizing i col fuel acc with
  | nil =>
    obtain ⟨fuel, rfl⟩ : ∃ m, fuel = m + 1 := ⟨fuel - 1, by simp at hf; omega⟩
    rcases hr with hr | ⟨r', rfl⟩
    · simp [scanRun, hr]
    · have hend : endsWord ('\'' :: '\n' :: r') = false := rfl
      simp [scanRun, hend]
  | cons c w ih =>
    obtain ⟨fuel, rfl⟩ : ∃ m, fuel = m + 1 := ⟨fuel - 1, by simp at hf; omega⟩
    simp only [List.mem_cons, not_or] at hw
    have hc : (isBlank c || isBreak c) = false := by
      rw [hp.isBlank List.mem_cons_self (Ne.symm hw.1), hp.isBreak List.mem_cons_self, Bool.or_false]
    have hlen : w.length < fuel := by simpa using hf
    by_cases hquote : c = '\''
    · subst hquote
      simp only [List.flatMap_cons, singleChar, if_true, List.cons_append, List.nil_append, scanRun, endsWord, hc,
        Bool.false_eq_true, if_false, Cursor.skipMany, Cursor.skip, List.tail_cons]
      rw [ih _ _ hw.2 hp.tail hlen]
      simp
      omega
    · have hstep : scanRun true (fuel + 1) ⟨c :: (w.flatMap singleChar ++ r), i, l, col⟩ acc =
          scanRun true fuel ⟨w.flatMap singleChar ++ r, i + 1, l, col + 1⟩ (c :: acc) := by
        simp [scanRun, endsWord, hc, hquote, Cursor.skip]
      simp only [List.flatMap_cons, singleChar, hquote, if_false, List.cons_append, List.nil_append, hstep]
      rw [ih _ _ hw.2 hp.tail hlen]
      simp
      omega

theorem length_le_flatMap_singleChar (w : List Char) : w.length ≤ (w.flatMap singleChar).length := by
  induction w with
  | nil => simp
  | cons c w ih =>
    have hc : 1 ≤ (singleChar c).length := by
      unfold singleChar
      split <;> simp
    simp only [List.length_cons, List.flatMap_cons, List.length_append]
    omega

/-- One word between single quotes, and what comes after the white space behind it. -/
theorem scanRuns_word {w r : List Char} (hw : ' ' ∉ w) (hp : IsPrintableAscii w)
    (hr : endsWord r = true ∨ ∃ r', r = '\'' :: '\n' :: r') (hne : r ≠ []) (hcol : col ≠ 0) (acc : List Char) :
    scanRuns true (fuel + 1) ⟨w.flatMap singleChar ++ r, i, l, col⟩ acc =
      let c : Cursor := ⟨r, i + (w.flatMap singleChar).length, l, col + (w.flatMap singleChar).length⟩
      if r.head? == some '\'' then some (c.skip, w.reverse ++ acc)
      else
        match scanGap 0 (r.length + 1) c {} with
        | none => none
        | some (c, g) => scanRuns true fuel c (g.folded ++ (w.reverse ++ acc)) := by
  have hlen := length_le_flatMap_singleChar w
  have hfuel : w.length < (w.flatMap singleChar ++ r).length + 1 := by
    rw [List.length_append]
    omega
  have hword := scanRun_word i l col hw hp hr hfuel acc
  rw [scanRuns]
  rcases hgap : scanGap 0 (r.length + 1)
      ⟨r, i + (w.flatMap singleChar).length, l, col + (w.flatMap singleChar).length⟩ {} with _ | ⟨c, g⟩ <;>
  simp only [Cursor.atMark, beq_eq_false_iff_ne.2 hcol, Bool.false_and, List.append_eq_nil_iff, hne, and_false,
    decide_false, Bool.or_self, Bool.false_eq_true, if_false, hword, hgap, if_true]

/-- The text between single quotes, up to the end of its line. -/
theorem scanRuns_eq (tail : List Char) (i l col fuel : Nat) (acc : List Char) (hp : IsPrintableAscii cs)
    (hcol : col ≠ 0) (hf : cs.length < fuel) :
    ∃ i' col', scanRuns true fuel ⟨cs.flatMap singleChar ++ '\'' :: '\n' :: tail, i, l, col⟩ acc =
      some (⟨'\n' :: tail, i', l, col'⟩, cs.reverse ++ acc) := by
  induction h : cs.length using Nat.strongRecOn generalizing cs i col fuel acc with
  | _ n ih =>
  obtain ⟨w, j, r, rfl, hw, hr, hj⟩ := exists_word cs
  simp only [List.length_append, List.length_replicate] at h hf
  obtain ⟨fuel, rfl⟩ : ∃ m, fuel = m + 1 := ⟨fuel - 1, by omega⟩
  simp only [List.flatMap_append, List.append_assoc, flatMap_singleChar_replicate]
  cases j with
  | zero =>
    obtain rfl := hj rfl
    rw [List.replicate_zero, List.nil_append, List.flatMap_nil, List.nil_append,
      scanRuns_word hw hp.left (.inr ⟨tail, rfl⟩) (by simp) hcol]
    refine ⟨i + (w.flatMap singleChar).length + 1, col + (w.flatMap singleChar).length + 1, ?_⟩
    simp [Cursor.skip]
  | succ j =>
    have hsolid : endsWord (r.flatMap singleChar ++ '\'' :: '\n' :: tail) = false := by
      cases r with
      | nil => rfl
      | cons c r =>
        have hc : c ∈ c :: r := List.mem_cons_self
        have hcb : (isBlank c || isBreak c) = false := by
          rw [hp.right.right.isBlank hc (by simpa using hr), hp.right.right.isBreak hc, Bool.or_false]
        unfold singleChar
        simp only [List.flatMap_cons]
        split
        · rfl
        · exact hcb
    have hspace : endsWord (List.replicate (j + 1) ' ' ++ (r.flatMap singleChar ++ '\'' :: '\n' :: tail)) = true := rfl
    rw [scanRuns_word hw hp.left (.inl hspace) (by simp [List.replicate_succ]) hcol]
    have hfuel : j + 1 <
        (List.replicate (j + 1) ' ' ++ (r.flatMap singleChar ++ '\'' :: '\n' :: tail)).length + 1 := by
      rw [List.length_append, List.length_replicate]
      omega
    have hgap := scanGap_spaces 0 (i + (w.flatMap singleChar).length) l (col + (w.flatMap singleChar).length)
      (.inr hsolid) {} rfl (j + 1) hfuel
    obtain ⟨i', col', hgo⟩ := ih r.length (by omega) (i + (w.flatMap singleChar).length + (j + 1))
      (col + (w.flatMap singleChar).length + (j + 1)) fuel (List.replicate (j + 1) ' ' ++ (w.reverse ++ acc))
      hp.right.right (by omega) (by omega) rfl
    refine ⟨i', col', ?_⟩
    have hhead : ((List.replicate (j + 1) ' ' ++ (r.flatMap singleChar ++ '\'' :: '\n' :: tail)).head? ==
        some '\'') = false := rfl
    have hfolded : Gap.folded { blanks := List.replicate (j + 1) ' ' } = List.replicate (j + 1) ' ' := rfl
    simp only [hhead, Bool.false_eq_true, if_false, hgap, List.append_nil, hfolded, hgo]
    simp only [List.reverse_append, List.reverse_replicate, List.append_assoc]

/-- A text in single quotes, up to the end of its line. -/
theorem scan_eq (tail : List Char) (i l col : Nat) (hp : IsPrintableAscii cs) :
    ∃ i' col', scan true ⟨quoted cs ++ '\n' :: tail, i, l, col⟩ =
      some (⟨'\n' :: tail, i', l, col'⟩, String.ofList cs) := by
  have hlen := length_le_flatMap_singleChar cs
  have hfuel : cs.length < (quoted cs ++ '\n' :: tail).length + 1 := by
    simp only [quoted, List.length_append, List.length_cons]
    omega
  obtain ⟨i', col', h⟩ := scanRuns_eq tail (i + 1) l (col + 1) _ [] hp (Nat.succ_ne_zero col) hfuel
  refine ⟨i', col', ?_⟩
  have hskip : Cursor.skip ⟨quoted cs ++ '\n' :: tail, i, l, col⟩ =
      ⟨cs.flatMap singleChar ++ '\'' :: '\n' :: tail, i + 1, l, col + 1⟩ := by
    simp [Cursor.skip, quoted]
  unfold scan
  simp only [hskip, h]
  simp

end Quoted

end Scalar

end LocalVolumes.Yaml
