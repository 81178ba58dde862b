import LocalVolumes.Proofs.Yaml.Scalar
import LocalVolumes.Yaml.Token

/-!
# LocalVolumes.Proofs.Yaml.Lexing — the tokens of a block collection, step by step

One law for each step that the lexer makes in a block sequence of mappings: past an entry, past a key and its colon,
past a scalar and the end of its line.  In each the text after the step is arbitrary, so the laws chain.
-/

namespace LocalVolumes.Yaml.Lexing

variable {r tail w : List Char} {i l col fuel m : Nat} {T : List Token} {n : Int} {outer : List Int} {ka : Bool}
  {s t u : Lexing}

/-! ### White space -/

theorem skipSpace_solid (h : IsSolid s.cursor.rest) : s.skipSpace (fuel + 1) = some s := by
  obtain ⟨⟨r, i, l, col⟩, T, n, outer, ka, places⟩ := s
  cases r with
  | nil => rfl
  | cons c r =>
    obtain ⟨hbom, hhash, hblank, hbreak⟩ := h
    simp only [isBlank, Bool.or_eq_false_iff] at hblank
    simp [skipSpace, hbreak, hblank]

theorem skipSpace_blanks (h : IsSolid r) (j : Nat) (hf : j < fuel) :
    skipSpace fuel ⟨⟨List.replicate j ' ' ++ r, i, l, col⟩, T, n, outer, ka, [none]⟩ =
      some ⟨⟨r, i + j, l, col + j⟩, T, n, outer, ka, [none]⟩ := by
  induction j generalizing i col fuel with
  | zero =>
    obtain ⟨fuel, rfl⟩ : ∃ m, fuel = m + 1 := ⟨fuel - 1, by omega⟩
    exact skipSpace_solid h
  | succ j ih =>
    obtain ⟨fuel, rfl⟩ : ∃ m, fuel = m + 1 := ⟨fuel - 1, by omega⟩
    have hstep : skipSpace (fuel + 1) ⟨⟨' ' :: (List.replicate j ' ' ++ r), i, l, col⟩, T, n, outer, ka, [none]⟩ =
        skipSpace fuel ⟨⟨List.replicate j ' ' ++ r, i + 1, l, col + 1⟩, T, n, outer, ka, [none]⟩ := rfl
    rw [List.replicate_succ, List.cons_append, hstep, ih (by omega), Nat.add_assoc, Nat.add_assoc, Nat.add_comm 1 j]

/-- The end of a line and the indentation of the next one, where a key may begin. -/
theorem skipSpace_line (i l col : Nat) (ka : Bool) (h : IsSolid r) (hf : m + 1 < fuel) :
    skipSpace fuel ⟨⟨'\n' :: (List.replicate m ' ' ++ r), i, l, col⟩, T, n, outer, ka, [none]⟩ =
      some ⟨⟨r, i + 1 + m, l + 1, m⟩, T, n, outer, true, [none]⟩ := by
  obtain ⟨fuel, rfl⟩ : ∃ m, fuel = m + 1 := ⟨fuel - 1, by omega⟩
  have hstep : skipSpace (fuel + 1) ⟨⟨'\n' :: (List.replicate m ' ' ++ r), i, l, col⟩, T, n, outer, ka, [none]⟩ =
      skipSpace fuel ⟨⟨List.replicate m ' ' ++ r, i + 1, l + 1, 0⟩, T, n, outer, ka || true, [none]⟩ := rfl
  rw [hstep, skipSpace_blanks h m (by omega), Bool.or_true, Nat.zero_add]

/-! ### Steps -/

theorem run_step (hskip : s.skipSpace (s.cursor.rest.length + 1) = some t) (hstale : t.dropStale = some t)
    (hrest : t.cursor.rest ≠ []) (hnext : (t.unroll t.cursor.column).next = some u) (fuel : Nat) :
    run (fuel + 1) s = run fuel u := by
  simp [run, hskip, hstale, hrest, hnext]

/-- White space before a token does not matter. -/
theorem run_congr (h : s.skipSpace (s.cursor.rest.length + 1) = t.skipSpace (t.cursor.rest.length + 1)) (fuel : Nat) :
    run (fuel + 1) s = run (fuel + 1) t := by
  simp [run, h]

theorem unroll_of_le (h : s.indent ≤ col) : s.unroll col = s := by
  unfold unroll unrollFrom
  split
  · rfl
  · split
    · rfl
    · rw [if_neg (by omega)]

/-- What a text that begins no indicator begins with. -/
theorem of_beginsIndicator {c : Char} (hc : Scalar.beginsIndicator (c :: r) = false) :
    (∀ d ∈ "#,[]\x7b\x7d&*!|>'\"%@\x60".toList, c ≠ d) ∧ (c = '?' ∨ c = ':' ∨ c = '-' → endsWord r = false) := by
  simp only [Scalar.beginsIndicator, Bool.or_eq_false_iff, List.contains_eq_mem, decide_eq_false_iff_not] at hc
  refine ⟨fun d hd he => hc.1 (he ▸ hd), ?_⟩
  rintro (rfl | rfl | rfl)
  all_goals simpa using hc.2

theorem beginsPlain_of_beginsIndicator {c : Char} (hc : Scalar.beginsIndicator (c :: r) = false)
    (hsolid : endsWord (c :: r) = false) : beginsPlain false (c :: r) = true := by
  obtain ⟨hne, hword⟩ := of_beginsIndicator hc
  simp only [endsWord, Bool.or_eq_false_iff] at hsolid
  simp only [beginsPlain, beq_iff_eq, Bool.or_eq_true, Bool.not_false, Bool.true_and]
  by_cases hdash : c = '-'
  · cases r with
    | nil => exact absurd (hword (.inr (.inr hdash))) (by simp [endsWord])
    | cons d r =>
      have hd := hword (.inr (.inr hdash))
      simp only [endsWord, Bool.or_eq_false_iff] at hd
      simp [hdash, hd.1]
  · by_cases hmark : c = '?' ∨ c = ':'
    · have hr := hword (hmark.imp id .inl)
      simp [hdash, hmark, hr]
    · have hind : isIndicator c = false := by
        rw [isIndicator, List.contains_eq_mem, decide_eq_false_iff_not]
        intro hmem
        have hsplit : c ∈ ['-', '?', ':'] ∨ c ∈ "#,[]\x7b\x7d&*!|>'\"%@\x60".toList := by
          simp at hmem ⊢
          grind
        rcases hsplit with h | h
        · simp at h
          grind
        · exact hne c h rfl
      simp [hdash, hmark, hsolid, hind]

/-- A text that begins no indicator begins a plain scalar. -/
theorem next_plain {c : Char} (hcol : col ≠ 0) (hc : Scalar.beginsIndicator (c :: r) = false)
    (hsolid : endsWord (c :: r) = false) :
    next ⟨⟨c :: r, i, l, col⟩, T, n, outer, ka, [none]⟩ = plain ⟨⟨c :: r, i, l, col⟩, T, n, outer, ka, [none]⟩ := by
  have hbegins := beginsPlain_of_beginsIndicator hc hsolid
  obtain ⟨hne, hword⟩ := of_beginsIndicator hc
  unfold next
  dsimp only
  rw [if_neg fun h => hcol h.1, if_neg (by simp [Cursor.atMark, hcol])]
  split
  · next h => simp at h
  · next h => exact absurd (List.cons.inj h).1 (hne _ (by decide))
  · next h => exact absurd (List.cons.inj h).1 (hne _ (by decide))
  · next h => exact absurd (List.cons.inj h).1 (hne _ (by decide))
  · next h => exact absurd (List.cons.inj h).1 (hne _ (by decide))
  · next h => exact absurd (List.cons.inj h).1 (hne _ (by decide))
  · next h =>
    obtain ⟨rfl, rfl⟩ := List.cons.inj h
    have hflow : inFlow ⟨⟨c :: r, i, l, col⟩, T, n, outer, ka, [none]⟩ = false := rfl
    have hword' (d : Char) (hd : d = '?' ∨ d = ':' ∨ d = '-') : (c == d && endsWord r) = false := by
      by_cases hcd : c = d
      · rw [hword (hcd ▸ hd), Bool.and_false]
      · rw [beq_eq_false_iff_ne.2 hcd, Bool.false_and]
    have hne' (d : Char) (hd : d ∈ "#,[]\x7b\x7d&*!|>'\"%@\x60".toList) : (c == d) = false :=
      beq_eq_false_iff_ne.2 (hne d hd)
    rw [hflow, Bool.false_or, hword' '-' (by decide), hword' '?' (by decide), hword' ':' (by decide),
      hne' '*' (by decide), hne' '&' (by decide), hne' '!' (by decide), hne' '|' (by decide), hne' '>' (by decide),
      hne' '\'' (by decide), hne' '"' (by decide), hbegins]
    rfl

/-! ### Keys -/

/-- A text that may be a key as it stands. -/
structure IsKey (w : List Char) : Prop where
  printable : IsPrintableAscii w
  nonempty : w ≠ []
  short : w.length ≤ 1024
  noSpace : ' ' ∉ w
  noColon : ':' ∉ w
  begins : Scalar.beginsIndicator w = false

theorem next_colon (hcol : col ≠ 0) (hr : endsWord r = true) (places : List (Option KeyPlace)) :
    next ⟨⟨':' :: r, i, l, col⟩, T, n, outer, ka, places⟩ =
      valueIndicator ⟨⟨':' :: r, i, l, col⟩, T, n, outer, ka, places⟩ := by
  unfold next
  dsimp only
  rw [if_neg fun h => hcol h.1, if_neg (by simp [Cursor.atMark, hcol])]
  exact (if_neg (by simp)).trans ((if_neg (by simp)).trans (if_pos (by simp [hr])))

/-- A key that has just been read is not too far behind. -/
theorem dropStale_fresh {p : KeyPlace} (hline : p.line = l) (hindex : i ≤ p.index + 1024) :
    dropStale ⟨⟨r, i, l, col⟩, T, n, outer, ka, [some p]⟩ = some ⟨⟨r, i, l, col⟩, T, n, outer, ka, [some p]⟩ := by
  have hfresh : isStale ⟨r, i, l, col⟩ p = false := by
    simp [isStale, hline]
    omega
  simp [dropStale, hfresh]

/-- The tokens of a key are put before it when its colon is met. -/
theorem valueIndicator_place {q : Bool} {k : Token} (i' l' col' : Nat) :
    valueIndicator ⟨⟨':' :: r, i, l, col⟩, k :: T, n, outer, ka, [some ⟨q, T.length, i', l', col'⟩]⟩ =
      some ⟨⟨r, i + 1, l, col + 1⟩, .value :: k :: .key :: (if n < col' then .blockMappingStart :: T else T),
        if n < col' then ↑col' else n, if n < col' then n :: outer else outer, false, [none]⟩ := by
  by_cases h : n < col'
  · have htwo : T.length + 1 + 1 - T.length = 2 := by omega
    simp [valueIndicator, emitAt, roll, inFlow, indicator, h, Cursor.skipMany, Cursor.skip, htwo]
  · simp [valueIndicator, emitAt, roll, inFlow, indicator, h, Cursor.skipMany, Cursor.skip]

/-- Past a key, and past the colon after it: the tokens of the key, and those of a mapping if one begins with it. -/
theorem run_key (hw : IsKey w) (hr : endsWord r = true) (hcol : col ≠ 0) (hn : n ≤ col)
    (hskip : s.skipSpace (s.cursor.rest.length + 1) = some ⟨⟨w ++ ':' :: r, i, l, col⟩, T, n, outer, true, [none]⟩)
    (fuel : Nat) :
    run (fuel + 2) s = run fuel
      ⟨⟨r, i + w.length + 1, l, col + w.length + 1⟩,
        .value :: .scalar (String.ofList w) true :: .key :: (if n < col then .blockMappingStart :: T else T),
        if n < col then ↑col else n, if n < col then n :: outer else outer, false, [none]⟩ := by
  obtain ⟨c, w', rfl⟩ := List.exists_cons_of_ne_nil hw.nonempty
  have hc : c ∈ c :: w' := List.mem_cons_self
  have hcs : c ≠ ' ' := fun he => hw.noSpace (he ▸ hc)
  have hsolid : endsWord (c :: (w' ++ ':' :: r)) = false := by
    simp only [endsWord, hw.printable.isBlank hc hcs, hw.printable.isBreak hc, Bool.or_self]
  have hbegins : Scalar.beginsIndicator (c :: (w' ++ ':' :: r)) = false := by
    have h := hw.begins
    cases w' with
    | nil =>
      have hend : endsWord ([] ++ ':' :: r) = false := rfl
      simp only [Scalar.beginsIndicator, Bool.or_eq_false_iff] at h ⊢
      exact ⟨h.1, by rw [hend, Bool.and_false]⟩
    | cons d w' => exact h
  have hhash : (c :: w').head? ≠ some '#' := by
    rintro he
    simp only [List.head?_cons, Option.some.injEq] at he
    exact (of_beginsIndicator hw.begins).1 '#' (by decide) he
  -- the key
  let place : KeyPlace := ⟨n == col, T.length, i, l, col⟩
  have hscan := Scalar.Plain.scan_key (n + 1).toNat i l hw.noSpace hw.noColon hw.printable hhash
    hw.nonempty hr hcol
  have hplain : plain ⟨⟨c :: w' ++ ':' :: r, i, l, col⟩, T, n, outer, true, [none]⟩ =
      some ⟨⟨':' :: r, i + (c :: w').length, l, col + (c :: w').length⟩,
        .scalar (String.ofList (c :: w')) true :: T, n, outer, false, [some place]⟩ := by
    simp only [plain, savePlace, dropPlace, inFlow, if_true, Option.map_some, Option.bind_some, bind, Nat.lt_irrefl,
      decide_false, List.tail_cons, List.length_cons, List.length_nil]
    simp only [List.length_cons] at hscan
    rw [hscan]
    rfl
  have hcolon : col + (c :: w').length ≠ 0 := by omega
  rw [run_step hskip rfl (by simp) (by
    rw [unroll_of_le hn, List.cons_append, next_plain hcol hbegins hsolid]
    exact hplain)]
  -- the colon
  have hshort : i + (c :: w').length ≤ place.index + 1024 := Nat.add_le_add_left hw.short i
  refine run_step (skipSpace_solid ?_) (dropStale_fresh rfl hshort) (by simp) ?_ fuel
  · exact ⟨by decide, by decide, rfl, rfl⟩
  · rw [unroll_of_le (Int.le_trans hn (by simp; omega)), next_colon hcolon hr, valueIndicator_place]

/-! ### Values -/

/-- The token of a text as it is written. -/
def scalarToken (x : String) : Token := .scalar x (Scalar.Style.ofText x = .plain)

theorem beginsIndicator_line (c : Char) (cs tail : List Char) :
    Scalar.beginsIndicator (c :: (cs ++ '\n' :: tail)) = Scalar.beginsIndicator (c :: cs) := by
  simp only [Scalar.beginsIndicator, endsWord_append cs ('\n' :: tail) rfl]

theorem next_quote (hcol : col ≠ 0) :
    next ⟨⟨'\'' :: r, i, l, col⟩, T, n, outer, false, [none]⟩ =
      (Scalar.Quoted.scan true ⟨'\'' :: r, i, l, col⟩).map
        fun (c, x) => ⟨c, .scalar x false :: T, n, outer, false, [none]⟩ := by
  unfold next
  dsimp only
  rw [if_neg fun h => hcol h.1, if_neg (by simp [Cursor.atMark, hcol])]
  have hnode : node (fun c => (Scalar.Quoted.scan true c).map (fun (c, t) => (c, .scalar t false)))
      ⟨⟨'\'' :: r, i, l, col⟩, T, n, outer, false, [none]⟩ =
        (Scalar.Quoted.scan true ⟨'\'' :: r, i, l, col⟩).map
          fun (c, x) => ⟨c, .scalar x false :: T, n, outer, false, [none]⟩ := by
    cases h : Scalar.Quoted.scan true ⟨'\'' :: r, i, l, col⟩ with
    | none => simp [node, savePlace, h]
    | some p => simp [node, savePlace, h]
  exact hnode

/-- Past a scalar and the end of its line, and the indentation of the next line. -/
theorem run_scalar {x : String} (i l : Nat) (outer : List Int) (T : List Token) (hp : IsPrintableAscii x.toList)
    (hm : (m : Int) ≤ n) (hn : n ≤ col) (htail : IsSolid tail) :
    ∃ i', ∀ fuel, run (fuel + 2)
        ⟨⟨' ' :: (Scalar.shown x ++ '\n' :: (List.replicate m ' ' ++ tail)), i, l, col⟩, T, n, outer, false, [none]⟩ =
      run (fuel + 1) ⟨⟨tail, i', l + 1, m⟩, scalarToken x :: T, n, outer, true, [none]⟩ := by
  have hskip {r : List Char} (h : IsSolid r) :
      skipSpace (List.length (' ' :: r) + 1) ⟨⟨' ' :: r, i, l, col⟩, T, n, outer, false, [none]⟩ =
        some ⟨⟨r, i + 1, l, col + 1⟩, T, n, outer, false, [none]⟩ :=
    skipSpace_blanks h 1 (by simp)
  have hn' : n ≤ ((col + 1 : Nat) : Int) := by omega
  rcases Scalar.style_cases hp with ⟨hstyle, hne, ha⟩ | hstyle
  · obtain ⟨hbegins, hhead, -, -⟩ := Scalar.admitsPlain_spec hp ha
    have hindent : m < (n + 1).toNat := by omega
    have hcol : (n + 1).toNat ≤ col + 1 := by omega
    obtain ⟨i', hscan⟩ := Scalar.Plain.scan_eq (i + 1) l hp hne ha htail.word hindent hcol
    have hshown : Scalar.shown x = x.toList := by rw [Scalar.shown, if_pos hstyle]
    have htoken : scalarToken x = .scalar (String.ofList x.toList) true := by simp [scalarToken, hstyle]
    rw [hshown, htoken]
    generalize x.toList = cs at *
    obtain ⟨c, cs, rfl⟩ := List.exists_cons_of_ne_nil hne
    have hc : c ∈ c :: cs := List.mem_cons_self
    have hblank := hp.isBlank hc (by simpa using hhead)
    have hhash : c ≠ '#' := (of_beginsIndicator hbegins).1 '#' (by decide)
    have hbom : c ≠ '\ufeff' := hp.ne_of_toNat hc (by decide)
    refine ⟨i', fun fuel => run_step (hskip ?_) rfl (by simp) ?_ (fuel + 1)⟩
    · exact ⟨hbom, hhash, hblank, hp.isBreak hc⟩
    · have hbegins' := (beginsIndicator_line c cs (List.replicate m ' ' ++ tail)).trans hbegins
      rw [unroll_of_le hn', List.cons_append, next_plain (Nat.succ_ne_zero col) hbegins'
        (by simp only [endsWord, hblank, hp.isBreak hc, Bool.or_self])]
      simp only [plain, savePlace, inFlow, Bool.false_eq_true, if_false, Option.bind_some, bind, List.length_cons,
        List.length_nil, Nat.lt_irrefl, decide_false]
      rw [List.cons_append] at hscan
      rw [hscan]
      rfl
  · obtain ⟨i', col', hscan⟩ := Scalar.Quoted.scan_eq (List.replicate m ' ' ++ tail) (i + 1) l (col + 1) hp
    have hshown : Scalar.shown x = Scalar.quoted x.toList := by simp [Scalar.shown, hstyle]
    have htoken : scalarToken x = .scalar (String.ofList x.toList) false := by simp [scalarToken, hstyle]
    rw [hshown, htoken]
    have hsolid : IsSolid (Scalar.quoted x.toList ++ '\n' :: (List.replicate m ' ' ++ tail)) :=
      ⟨by decide, by decide, rfl, rfl⟩
    refine ⟨i' + 1 + m, fun fuel => ?_⟩
    have hstep := run_step (u := ⟨⟨'\n' :: (List.replicate m ' ' ++ tail), i', l, col'⟩,
      .scalar (String.ofList x.toList) false :: T, n, outer, false, [none]⟩) (hskip hsolid) rfl
      (by simp [Scalar.quoted]) (by
        rw [unroll_of_le hn', Scalar.quoted, List.cons_append, next_quote (Nat.succ_ne_zero col)]
        rw [Scalar.quoted, List.cons_append] at hscan
        rw [hscan]
        rfl) (fuel + 1)
    refine hstep.trans (run_congr ?_ fuel)
    have hfuel : m + 1 < ('\n' :: (List.replicate m ' ' ++ tail)).length + 1 := by
      rw [List.length_cons, List.length_append, List.length_replicate]
      omega
    rw [skipSpace_line _ _ _ _ htail hfuel, skipSpace_solid htail]

/-- Past the first key of a mapping, its value and the end of the line. -/
theorem run_pair {x : String} (hw : IsKey w) (hp : IsPrintableAscii x.toList) (hcol : col ≠ 0) (hn : n < col)
    (hm : m ≤ col) (htail : IsSolid tail)
    (hskip : s.skipSpace (s.cursor.rest.length + 1) =
      some ⟨⟨w ++ ':' :: ' ' :: (Scalar.shown x ++ '\n' :: (List.replicate m ' ' ++ tail)), i, l, col⟩,
        T, n, outer, true, [none]⟩) :
    ∃ i', ∀ fuel, run (fuel + 4) s = run (fuel + 1)
      ⟨⟨tail, i', l + 1, m⟩,
        scalarToken x :: .value :: .scalar (String.ofList w) true :: .key :: .blockMappingStart :: T,
        col, n :: outer, true, [none]⟩ := by
  have hm' : (m : Int) ≤ col := by omega
  have hcol' : (col : Int) ≤ ((col + w.length + 1 : Nat) : Int) := by omega
  obtain ⟨i', hscalar⟩ := run_scalar (i + w.length + 1) l (n :: outer)
    (.value :: .scalar (String.ofList w) true :: .key :: .blockMappingStart :: T) hp hm' hcol' htail
  refine ⟨i', fun fuel => ?_⟩
  have hkey := run_key hw rfl hcol (by omega) hskip (fuel + 2)
  simp only [hn, if_true] at hkey
  exact hkey.trans (hscalar fuel)

end LocalVolumes.Yaml.Lexing
