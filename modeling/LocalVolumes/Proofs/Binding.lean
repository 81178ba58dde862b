import LocalVolumes.Binding
import LocalVolumes.Proofs.Yaml.Lexing
import Mathlib.Algebra.Order.Ring.Nat

/-!
# LocalVolumes.Proofs.Binding — bindings that were written are read back

The bindings of a storage class go through text.  If their names are printable ASCII, reading that text gives the same
bindings: the lexer finds the tokens of each binding, one line after the other, and the reader finds the binding in its
tokens.
-/

namespace LocalVolumes.Binding

open Yaml Lexing

/-- The names of a binding are printable ASCII. -/
def IsPrintable (b : Binding) : Prop :=
  IsPrintableAscii b.name.toList ∧ ∀ p, b.thin = some p → IsPrintableAscii p.poolName.toList

instance (b : Binding) : Decidable b.IsPrintable :=
  inferInstanceAs (Decidable (_ ∧ ∀ p, b.thin = some p → IsPrintableAscii p.poolName.toList))

/-! ### Text -/

/-- An item of the list, after its dash. -/
def itemText (b : Binding) (tail : List Char) : List Char :=
  ' ' :: ("name".toList ++ ':' :: ' ' :: (Scalar.shown b.name ++ '\n' :: (match b.thin with
    | none => tail
    | some p => List.replicate 2 ' ' ++ ("thin".toList ++ ':' :: '\n' :: (List.replicate 4 ' ' ++
        ("poolName".toList ++ ':' :: ' ' :: (Scalar.shown p.poolName ++ '\n' :: tail)))))))

theorem encodeItem_append {b : Binding} (h : b.IsPrintable) (tail : List Char) :
    encodeItem b ++ tail = '-' :: itemText b tail := by
  obtain ⟨name, thin⟩ := b
  have hfirst : "- name: ".toList = '-' :: ' ' :: ("name".toList ++ [':', ' ']) := by decide
  have hname := Scalar.write_eq_shown 4 h.1
  unfold encodeItem itemText
  cases thin with
  | none =>
    rw [hname, hfirst]
    simp only [List.append_assoc, List.cons_append, List.nil_append, List.append_nil]
  | some p =>
    have hpool := Scalar.write_eq_shown 6 (h.2 p rfl)
    have hsecond : "  thin:\n    poolName: ".toList = List.replicate 2 ' ' ++ ("thin".toList ++ ':' :: '\n' ::
      (List.replicate 4 ' ' ++ ("poolName".toList ++ [':', ' ']))) := by decide
    dsimp only
    rw [hname, hpool, hfirst, hsecond]
    simp only [List.append_assoc, List.cons_append, List.nil_append]

/-! ### Tokens -/

/-- The tokens of a binding. -/
def itemTokens (b : Binding) : List Token :=
  [.blockEntry, .blockMappingStart, .key, .scalar "name" true, .value, scalarToken b.name] ++
    match b.thin with
    | none => [.blockEnd]
    | some p => [.key, .scalar "thin" true, .value, .blockMappingStart, .key, .scalar "poolName" true, .value,
        scalarToken p.poolName, .blockEnd, .blockEnd]

/-- How many steps the lexer makes for a binding. -/
def lexingSteps (b : Binding) : Nat :=
  match b.thin with
  | none => 4
  | some _ => 9

/-- The lexer is past the dash of a binding, with what comes after it. -/
def inItem (r : List Char) (i l : Nat) (T : List Token) : Lexing :=
  ⟨⟨r, i, l, 1⟩, .blockEntry :: T, 0, [-1], true, [none]⟩

/-- The lexer is at the end of a binding; the tokens are those that there are once its mappings are ended. -/
inductive AfterItem (r : List Char) (T : List Token) : Lexing → Prop
  | group (i l : Nat) (U : List Token) : T = .blockEnd :: U →
    AfterItem r T ⟨⟨r, i, l, 0⟩, U, 2, [0, -1], true, [none]⟩
  | pool (i l : Nat) (U : List Token) : T = .blockEnd :: .blockEnd :: U →
    AfterItem r T ⟨⟨r, i, l, 0⟩, U, 4, [2, 0, -1], true, [none]⟩

variable {r tail : List Char} {T : List Token} {s : Lexing} {i l : Nat}

theorem run_next_item (h : AfterItem ('-' :: ' ' :: r) T s) :
    ∃ i l, ∀ fuel, run (fuel + 1) s = run fuel (inItem (' ' :: r) i l T) := by
  have hsolid : IsSolid ('-' :: ' ' :: r) := ⟨by decide, by decide, rfl, rfl⟩
  cases h with
  | group i l U hT =>
    subst hT
    exact ⟨i + 1, l, run_step (skipSpace_solid hsolid) rfl (by simp) rfl⟩
  | pool i l U hT =>
    subst hT
    exact ⟨i + 1, l, run_step (skipSpace_solid hsolid) rfl (by simp) rfl⟩

theorem run_end (h : AfterItem [] T s) (fuel : Nat) :
    run (fuel + 1) s = some (T.reverse ++ [.blockEnd, .streamEnd]) := by
  cases h with
  | group i l U hT =>
    subst hT
    have hfinish : finish ⟨⟨[], i, l, 0⟩, U, 2, [0, -1], true, [none]⟩ =
      some ⟨⟨[], i, l, 0⟩, .streamEnd :: .blockEnd :: .blockEnd :: U, -1, [], false, [none]⟩ := rfl
    simp [run, skipSpace, dropStale, hfinish]
  | pool i l U hT =>
    subst hT
    have hfinish : finish ⟨⟨[], i, l, 0⟩, U, 4, [2, 0, -1], true, [none]⟩ =
      some ⟨⟨[], i, l, 0⟩, .streamEnd :: .blockEnd :: .blockEnd :: .blockEnd :: U, -1, [], false, [none]⟩ := rfl
    simp [run, skipSpace, dropStale, hfinish]

/-- The keys of a binding. -/
theorem isKey {w : List Char} (hw : w = "name".toList ∨ w = "thin".toList ∨ w = "poolName".toList) : IsKey w := by
  rcases hw with rfl | rfl | rfl
  all_goals exact ⟨by decide, by decide, by decide, by decide, by decide, by decide⟩

/-- The tokens of one binding. -/
theorem run_item {b : Binding} (h : b.IsPrintable) (htail : IsSolid tail) :
    ∃ s, AfterItem tail (b.itemTokens.reverse ++ T) s ∧ ∀ fuel,
      run (fuel + b.lexingSteps) (inItem (b.itemText tail) i l T) = run (fuel + 1) s := by
  obtain ⟨name, thin⟩ := b
  have hskip (rest : List Char) :
      (inItem (' ' :: ("name".toList ++ rest)) i l T).skipSpace
          ((inItem (' ' :: ("name".toList ++ rest)) i l T).cursor.rest.length + 1) =
        some ⟨⟨"name".toList ++ rest, i + 1, l, 2⟩, .blockEntry :: T, 0, [-1], true, [none]⟩ := by
    have hsolid : IsSolid ("name".toList ++ rest) := ⟨by decide, by decide, rfl, rfl⟩
    exact skipSpace_blanks hsolid 1 (by simp [inItem])
  have hdeeper : (0 : Int) < (2 : Nat) := by decide
  cases thin with
  | none =>
    obtain ⟨i', hpair⟩ := run_pair (x := name) (m := 0) (isKey (.inl rfl)) h.1 (Nat.succ_ne_zero 1) hdeeper
      (Nat.zero_le 2) htail (hskip (':' :: ' ' :: (Scalar.shown name ++ '\n' :: (List.replicate 0 ' ' ++ tail))))
    exact ⟨_, .group i' (l + 1) _ (by simp [itemTokens]), hpair⟩
  | some p =>
    have hpool := h.2 p rfl
    let line := "poolName".toList ++ ':' :: ' ' :: (Scalar.shown p.poolName ++ '\n' :: (List.replicate 0 ' ' ++ tail))
    have hsolid : IsSolid ("thin".toList ++ ':' :: '\n' :: (List.replicate 4 ' ' ++ line)) :=
      ⟨by decide, by decide, rfl, rfl⟩
    obtain ⟨i₁, hname⟩ := run_pair (x := name) (m := 2) (isKey (.inl rfl)) h.1 (Nat.succ_ne_zero 1) hdeeper
      (Nat.le_refl 2) hsolid (hskip _)
    have hthin := run_key (n := 2) (s := ⟨
      ⟨"thin".toList ++ ':' :: '\n' :: (List.replicate 4 ' ' ++ line), i₁, l + 1, 2⟩,
      scalarToken name :: .value :: .scalar "name" true :: .key :: .blockMappingStart :: .blockEntry :: T,
      2, [0, -1], true, [none]⟩) (isKey (.inr (.inl rfl))) rfl (Nat.succ_ne_zero 1) (Int.le_refl 2)
      (skipSpace_solid hsolid)
    obtain ⟨i₂, hpair⟩ := run_pair (x := p.poolName) (m := 0) (T := .value :: .scalar "thin" true :: .key ::
      scalarToken name :: .value :: .scalar "name" true :: .key :: .blockMappingStart :: .blockEntry :: T)
      (isKey (.inr (.inr rfl))) hpool (Nat.succ_ne_zero 3) (show (2 : Int) < (4 : Nat) by decide)
      (Nat.zero_le 4) htail (skipSpace_line (i₁ + 4 + 1) (l + 1) (2 + 4 + 1) false
        ⟨by decide, by decide, rfl, rfl⟩ (by simp))
    refine ⟨_, .pool i₂ (l + 1 + 1 + 1) _ (by simp [itemTokens]; rfl), fun fuel => ?_⟩
    exact (hname (fuel + 5)).trans ((hthin (fuel + 4)).trans (hpair fuel))

theorem isSolid_items (bs : List Binding) (hbs : ∀ b ∈ bs, b.IsPrintable) : IsSolid (bs.flatMap encodeItem) := by
  cases bs with
  | nil => trivial
  | cons b bs =>
    rw [List.flatMap_cons, encodeItem_append (hbs b List.mem_cons_self)]
    exact ⟨by decide, by decide, rfl, rfl⟩

/-- The tokens of the bindings that are left. -/
theorem run_items {bs : List Binding} (hbs : ∀ b ∈ bs, b.IsPrintable) (h : AfterItem (bs.flatMap encodeItem) T s)
    (fuel : Nat) : run (fuel + (bs.map lexingSteps).sum + 1) s =
      some (T.reverse ++ bs.flatMap itemTokens ++ [.blockEnd, .streamEnd]) := by
  induction bs generalizing T s with
  | nil => simpa using run_end h fuel
  | cons b bs ih =>
    have hb := hbs b List.mem_cons_self
    have hbs' : ∀ b ∈ bs, b.IsPrintable := fun b hb => hbs b (List.mem_cons_of_mem _ hb)
    rw [List.flatMap_cons, encodeItem_append hb] at h
    obtain ⟨i, l, hnext⟩ := run_next_item h
    obtain ⟨s', hs', hitem⟩ := run_item (T := T) (i := i) (l := l) hb (isSolid_items bs hbs')
    have hfuel : fuel + ((b :: bs).map lexingSteps).sum = fuel + (bs.map lexingSteps).sum + b.lexingSteps := by
      rw [List.map_cons, List.sum_cons]
      omega
    rw [hfuel, hnext]
    exact (hitem _).trans ((ih hbs' hs').trans (by simp))

theorem lexingSteps_le (b : Binding) : b.lexingSteps ≤ (encodeItem b).length := by
  have hfirst : "- name: ".toList.length = 8 := by decide
  have hsecond : "  thin:\n    poolName: ".toList.length = 22 := by decide
  unfold lexingSteps encodeItem
  cases b.thin with
  | none =>
    simp only [List.length_append, hfirst]
    omega
  | some p =>
    simp only [List.length_append, hfirst, hsecond]
    omega

theorem sum_lexingSteps_le (bs : List Binding) : (bs.map lexingSteps).sum ≤ (bs.flatMap encodeItem).length := by
  induction bs with
  | nil => simp
  | cons b bs ih =>
    have := lexingSteps_le b
    simp only [List.map_cons, List.sum_cons, List.flatMap_cons, List.length_append]
    omega

theorem all_isAllowed_shown {x : String} (h : IsPrintableAscii x.toList) : (Scalar.shown x).all isAllowed = true := by
  have hsingle : ∀ c ∈ x.toList.flatMap Scalar.singleChar, isAllowed c = true := by
    intro c hc
    obtain ⟨d, hd, hcd⟩ := List.mem_flatMap.1 hc
    unfold Scalar.singleChar at hcd
    split at hcd
    · simp only [List.mem_cons, List.not_mem_nil, or_false, or_self] at hcd
      subst hcd
      rfl
    · rw [List.mem_singleton.1 hcd]
      exact h.isAllowed hd
  unfold Scalar.shown
  split
  · exact List.all_eq_true.2 fun c hc => h.isAllowed hc
  · have hquote : isAllowed '\'' = true := by decide
    simp [Scalar.quoted, List.all_append, List.all_eq_true.2 hsingle, hquote]

theorem all_isAllowed_encodeItem {b : Binding} (h : b.IsPrintable) : (encodeItem b).all isAllowed = true := by
  have hname := all_isAllowed_shown h.1
  have hfirst : "- name: ".toList.all isAllowed = true := by decide
  have hsecond : "  thin:\n    poolName: ".toList.all isAllowed = true := by decide
  have hbreak : isAllowed '\n' = true := by decide
  unfold encodeItem
  rw [Scalar.write_eq_shown 4 h.1]
  cases hthin : b.thin with
  | none => simp only [List.all_append, hfirst, hname, hbreak, List.all_cons, List.all_nil, Bool.and_self]
  | some p =>
    have hpool := all_isAllowed_shown (h.2 p hthin)
    dsimp only
    rw [Scalar.write_eq_shown 6 (h.2 p hthin)]
    simp only [List.all_append, hfirst, hsecond, hname, hpool, hbreak, List.all_cons, List.all_nil, Bool.and_self]

/-- The tokens of a list of bindings. -/
theorem ofText?_encode {bs : List Binding} (hbs : ∀ b ∈ bs, b.IsPrintable) (hne : bs ≠ []) :
    Token.ofText? (encode bs) = some (.blockSequenceStart :: (bs.flatMap itemTokens ++ [.blockEnd, .streamEnd])) := by
  obtain ⟨b, bs, rfl⟩ := List.exists_cons_of_ne_nil hne
  have hb := hbs b List.mem_cons_self
  have hbs' : ∀ b ∈ bs, b.IsPrintable := fun b hb => hbs b (List.mem_cons_of_mem _ hb)
  have hallowed : ((b :: bs).flatMap encodeItem).all isAllowed = true := by
    rw [List.all_flatMap]
    exact List.all_eq_true.2 fun b hb => all_isAllowed_encodeItem (hbs b hb)
  obtain ⟨s, hs, hitem⟩ := run_item (T := [.blockSequenceStart]) (i := 1) (l := 0) hb (isSolid_items bs hbs')
  have hsteps := sum_lexingSteps_le (b :: bs)
  rw [List.map_cons, List.sum_cons] at hsteps
  obtain ⟨fuel, hfuel⟩ : ∃ fuel, ((b :: bs).flatMap encodeItem).length + 2 =
      fuel + (bs.map lexingSteps).sum + b.lexingSteps + 1 :=
    ⟨((b :: bs).flatMap encodeItem).length + 1 - (bs.map lexingSteps).sum - b.lexingSteps, by omega⟩
  unfold Token.ofText? encode
  rw [if_neg hne, String.toList_ofList, if_pos hallowed, hfuel]
  rw [List.flatMap_cons, encodeItem_append hb]
  have hsolid : IsSolid ('-' :: itemText b (bs.flatMap encodeItem)) := ⟨by decide, by decide, rfl, rfl⟩
  rw [run_step (skipSpace_solid hsolid) rfl (by simp) rfl]
  exact (hitem _).trans ((run_items hbs' hs fuel).trans (by simp))

/-! ### Nodes -/

/-- The node of a text as it is written. -/
def scalarNode (x : String) : Node := .scalar x (Scalar.Style.ofText x = .plain) none

/-- The node of a binding. -/
def itemNode (b : Binding) : Node :=
  .mapping ((.scalar "name" true none, scalarNode b.name) :: match b.thin with
    | none => []
    | some p => [(.scalar "thin" true none, .mapping [(.scalar "poolName" true none, scalarNode p.poolName)])])

theorem readOptional_item (r : Node.Reading) (rest : List Token) (b : Binding) (fuel : Nat) :
    Node.readOptional false [.blockEntry, .blockEnd] (fuel + 16) { r with rest := b.itemTokens.tail ++ rest } =
      some (b.itemNode, { r with rest := rest }) := by
  obtain ⟨name, thin⟩ := b
  cases thin with
  | none => rfl
  | some p => rfl

theorem readItems_eq (r : Node.Reading) (rest : List Token) (bs : List Binding) (fuel : Nat) :
    Node.readItems (fuel + bs.length + 17) { r with rest := bs.flatMap itemTokens ++ .blockEnd :: rest } =
      some (bs.map itemNode, { r with rest := rest }) := by
  induction bs with
  | nil => rfl
  | cons b bs ih =>
    have hhead : (b :: bs).flatMap itemTokens ++ Token.blockEnd :: rest =
        Token.blockEntry :: (b.itemTokens.tail ++ (bs.flatMap itemTokens ++ .blockEnd :: rest)) := by
      simp [itemTokens]
    have hitem := readOptional_item r (bs.flatMap itemTokens ++ .blockEnd :: rest) b (fuel + bs.length + 1)
    rw [hhead, List.length_cons, ← Nat.add_assoc, Nat.add_right_comm, Node.readItems]
    simp only [Node.Reading.head, Node.Reading.skip, List.head?_cons, Option.getD_some, List.tail_cons]
    rw [hitem]
    simp only [Option.bind_eq_bind, Option.bind_some, ih, List.map_cons]

/-! ### The document -/

theorem read?_itemNode (d : Document) (b : Binding) : read? d b.itemNode = some b := by
  obtain ⟨name, thin⟩ := b
  cases thin with
  | none => rfl
  | some p => rfl

theorem mapM_read? (d : Document) (bs : List Binding) : (bs.map itemNode).mapM (read? d) = some bs := by
  induction bs with
  | nil => rfl
  | cons b bs ih => simp [List.mapM_cons, read?_itemNode, ih]

/-- Reading a binding that was written follows no references. -/
theorem hopsInBinding_itemNode (d : Document) (b : Binding) : hopsInBinding d b.itemNode = 0 := by
  obtain ⟨name, thin⟩ := b
  cases thin with
  | none => rfl
  | some p => rfl

theorem hopsInBinding_itemNodes (d : Document) (bs : List Binding) :
    (bs.map itemNode).foldr (hopsInBinding d · + ·) 0 = 0 := by
  induction bs with
  | nil => rfl
  | cons b bs ih => rw [List.map_cons, List.foldr_cons, hopsInBinding_itemNode, ih]

theorem length_le_flatMap_itemTokens (bs : List Binding) : bs.length ≤ (bs.flatMap itemTokens).length := by
  induction bs with
  | nil => simp
  | cons b bs ih =>
    simp only [List.flatMap_cons, List.length_append, List.length_cons, itemTokens]
    omega

/-- The document of a list of bindings. -/
theorem ofText?_document {bs : List Binding} (hbs : ∀ b ∈ bs, b.IsPrintable) (hne : bs ≠ []) :
    Document.ofText? (encode bs) = some ⟨some (.sequence (bs.map itemNode)), []⟩ := by
  have hlen := length_le_flatMap_itemTokens bs
  let tokens := Token.blockSequenceStart :: (bs.flatMap itemTokens ++ [.blockEnd, .streamEnd])
  obtain ⟨fuel, hfuel⟩ : ∃ fuel, 4 * tokens.length + 8 = fuel + bs.length + 17 + 1 + 1 :=
    ⟨4 * tokens.length + 8 - bs.length - 19, by
      simp only [tokens, List.length_cons, List.length_append, List.length_nil]
      omega⟩
  have hitems := readItems_eq { rest := tokens, handles := [] ++ Tag.standardHandles } [.streamEnd] bs fuel
  have hnode : Node.readNode true false (4 * tokens.length + 8)
      { rest := tokens, handles := [] ++ Tag.standardHandles } =
        some (.sequence (bs.map itemNode), { rest := [.streamEnd], handles := [] ++ Tag.standardHandles }) := by
    have hcontent : Node.readContent true false {} (fuel + bs.length + 17 + 1)
        { rest := tokens, handles := [] ++ Tag.standardHandles } =
          (Node.readItems (fuel + bs.length + 17)
            { rest := bs.flatMap itemTokens ++ [.blockEnd, .streamEnd], handles := [] ++ Tag.standardHandles }).map
              fun x => (.sequence x.1, x.2) := rfl
    have hread : Node.readNode true false (fuel + bs.length + 17 + 1 + 1)
        { rest := tokens, handles := [] ++ Tag.standardHandles } =
          (Node.readContent true false {} (fuel + bs.length + 17 + 1)
            { rest := tokens, handles := [] ++ Tag.standardHandles }).bind fun x => some (x.1, x.2.keep none x.1) := rfl
    rw [hfuel, hread, hcontent, hitems]
    rfl
  unfold Document.ofText?
  rw [ofText?_encode hbs hne, Option.bind_some]
  show Document.readRoot false [] tokens = _
  unfold Document.readRoot
  simp only [Bool.false_and, Bool.false_eq_true, if_false, hnode]
  rfl

/-- Bindings that were written are read back. -/
theorem decode?_encode {bs : List Binding} (hbs : ∀ b ∈ bs, b.IsPrintable) : decode? (encode bs) = some bs := by
  by_cases hne : bs = []
  · subst hne
    rfl
  · obtain ⟨b, bs', rfl⟩ := List.exists_cons_of_ne_nil hne
    have hdash : Text.isBlank '-' = false := by decide
    have hblank : Text.isBlankText (encode (b :: bs')) = false := by
      rw [Text.isBlankText, encode, if_neg hne, String.toList_ofList, List.flatMap_cons,
        encodeItem_append (hbs b List.mem_cons_self), List.all_cons, hdash, Bool.false_and]
    unfold decode?
    rw [hblank, ofText?_document hbs hne]
    have hbounded : isBounded ⟨some (.sequence ((b :: bs').map itemNode)), []⟩ = true := by
      unfold isBounded
      dsimp only
      rw [hopsInBinding_itemNodes]
      simp
    simp only [Bool.false_eq_true, if_false, Option.filter_some, hbounded, if_true, Option.bind_some, readAll?,
      mapM_read?]

end LocalVolumes.Binding

namespace LocalVolumes

open Binding

/-- **Bindings survive their text.**  Whatever printable names they have, they are read back as they were written, so no
two lists of them are written alike. -/
theorem bindings_survive_text {bs : List Binding} (hbs : ∀ b ∈ bs, b.IsPrintable) :
    decode? (encode bs) = some bs ∧
      ∀ bs', (∀ b ∈ bs', b.IsPrintable) → encode bs = encode bs' → bs = bs' := by
  have hback := decode?_encode hbs
  refine ⟨hback, fun bs' hbs' heq => ?_⟩
  have hback' := decode?_encode hbs'
  rw [heq, hback'] at hback
  exact (Option.some.inj hback).symm

/-- Names that look like something else in YAML are no exception, and neither is the list without bindings. -/
theorem bindings_survive_text_lookalikes :
    let bs := [ofGroup "", ofGroup " a", ofPool "b " "null", ofPool "~" "true", ofGroup "07", ofPool "0x1F" "1e3",
      ofGroup "- x", ofPool "a: b" "a #b", ofGroup "---", ofPool "it's" "\"\"", ofPool "- name: a" "[]", ofGroup "null"]
    (∀ b ∈ bs, b.IsPrintable) ∧ decode? (encode bs) = some bs ∧ encode bs ≠ encode [] ∧ decode? (encode []) = some [] := by
  intro bs
  have hbs : ∀ b ∈ bs, b.IsPrintable := by decide +kernel
  have hnone : ∀ b ∈ ([] : List Binding), b.IsPrintable := fun _ hb => nomatch hb
  obtain ⟨hback, hinjective⟩ := bindings_survive_text hbs
  have hne : bs ≠ [] := by decide
  exact ⟨hbs, hback, fun heq => hne (hinjective [] hnone heq), (bindings_survive_text hnone).1⟩

end LocalVolumes
