import LocalVolumes.NameMap
import Mathlib.Data.List.Nodup

/-!
# LocalVolumes.Proofs.NameMap — the values of a map and what its keys have

Clients see a table of a cluster as the list of its values.  The lemmas here say that the list holds just what the
keys have, so a search in it is a look at a key.  A map is no more than what its keys have, and in the map of a list
the last entry of a key counts.
-/

namespace LocalVolumes

namespace NameMap

variable {α : Type}

theorem lookup_of_mem {es : List (String × α)} (h : es.Pairwise (fun a b => a.1 < b.1))
    {k : String} {v : α} (hm : (k, v) ∈ es) : es.lookup k = some v := by
  induction es with
  | nil => simp at hm
  | cons e es ih =>
    obtain ⟨j, w⟩ := e
    obtain ⟨he, hes⟩ := List.pairwise_cons.1 h
    rcases List.mem_cons.1 hm with heq | hm
    · cases heq
      exact List.lookup_cons_self
    · have hne : k ≠ j := fun hk => String.lt_irrefl k (hk ▸ he (k, v) hm)
      simp only [List.lookup_cons, beq_eq_false_iff_ne.2 hne]
      exact ih hes hm

theorem mem_of_lookup {es : List (String × α)} {k : String} {v : α} (h : es.lookup k = some v) :
    (k, v) ∈ es := by
  obtain ⟨l₁, l₂, rfl, -⟩ := List.lookup_eq_some_iff.1 h
  simp

theorem mem_entries_iff {m : NameMap α} {k : String} {v : α} :
    (k, v) ∈ m.entries ↔ m.get? k = some v :=
  ⟨lookup_of_mem m.ascending, mem_of_lookup⟩

theorem mem_values_iff {m : NameMap α} {v : α} : v ∈ m.values ↔ ∃ k, m.get? k = some v := by
  simp only [values, List.mem_map, Prod.exists, exists_eq_right]
  exact exists_congr fun k => mem_entries_iff

/-- Among objects of which each knows its own name, the first of a name in the list is the one of the key. -/
theorem find?_values {m : NameMap α} {p : α → Bool} {k : String}
    (h : ∀ k' v, m.get? k' = some v → p v → k' = k) :
    m.values.find? p = (m.get? k).filter p := by
  cases hf : m.values.find? p with
  | some v =>
    obtain ⟨k', hk'⟩ := mem_values_iff.1 (List.mem_of_find?_eq_some hf)
    have hp : p v := List.find?_some hf
    obtain rfl := h k' v hk' hp
    rw [hk', Option.filter_some_pos hp]
  | none =>
    cases hk : m.get? k with
    | none => rfl
    | some v =>
      have hp := List.find?_eq_none.1 hf v (mem_values_iff.2 ⟨k, hk⟩)
      simp [Option.filter, hp]

/-! ### Keys -/

/-- The keys are those that have a value. -/
theorem mem_keys_iff {m : NameMap α} {k : String} : k ∈ m.keys ↔ ∃ v, m.get? k = some v := by
  simp only [keys, List.mem_map, Prod.exists, exists_and_right, exists_eq_right]
  exact exists_congr fun v => mem_entries_iff

theorem pairwise_keys (m : NameMap α) : m.keys.Pairwise (· < ·) := List.pairwise_map.2 m.ascending

/-- Lists that ascend strictly are the same if they have the same entries. -/
theorem eq_of_ascending {β : Type} (key : β → String) {l l' : List β} (h : l.Pairwise (fun a b => key a < key b))
    (h' : l'.Pairwise (fun a b => key a < key b)) (hmem : ∀ b, b ∈ l ↔ b ∈ l') : l = l' := by
  have hnodup {l : List β} (h : l.Pairwise (fun a b => key a < key b)) : l.Nodup := by
    refine h.imp fun {a b} hlt heq => ?_
    rw [heq] at hlt
    exact String.lt_irrefl _ hlt
  have hperm : l.Perm l' := (List.perm_ext_iff_of_nodup (hnodup h) (hnodup h')).2 hmem
  exact hperm.eq_of_pairwise (fun a b _ _ hab hba => absurd (String.lt_trans hab hba) (String.lt_irrefl _)) h h'

/-- A map is what its keys have. -/
theorem ext_get? {m m' : NameMap α} (h : ∀ k, m.get? k = m'.get? k) : m = m' := by
  have hmem (e : String × α) : e ∈ m.entries ↔ e ∈ m'.entries := by
    rw [mem_entries_iff, mem_entries_iff, h]
  have hentries : m.entries = m'.entries := eq_of_ascending Prod.fst m.ascending m'.ascending hmem
  cases m
  cases m'
  congr

/-- Of two values that a key is given the later counts. -/
theorem insert_insert (m : NameMap α) (k : String) (v w : α) : (m.insert k v).insert k w = m.insert k w := by
  refine ext_get? fun k' => ?_
  rw [get?_insert, get?_insert, get?_insert]
  split <;> rfl

/-! ### Maps of lists -/

/-- A key that has a value keeps it, and one that has none takes it. -/
theorem get?_insertIfNew (m : NameMap α) (k k' : String) (v : α) :
    (m.insertIfNew k v).get? k' = (m.get? k').or (if k' = k then some v else none) := by
  by_cases hk : k' = k
  · subst hk
    cases hm : m.get? k' with
    | none => simp [insertIfNew, contains, hm, get?_insert]
    | some w => simp [insertIfNew, contains, hm]
  · simp only [hk, if_false, Option.or_none]
    unfold insertIfNew
    split
    · rfl
    · rw [get?_insert, if_neg hk]

/-- What a key has stays, and a key that has nothing takes what its first entry in the list says. -/
theorem get?_foldl_insertIfNew (es : List (String × α)) (m : NameMap α) (k : String) :
    (es.foldl (fun m e => m.insertIfNew e.1 e.2) m).get? k = (m.get? k).or (es.lookup k) := by
  induction es generalizing m with
  | nil => simp
  | cons e es ih =>
    obtain ⟨j, w⟩ := e
    rw [List.foldl_cons, ih, get?_insertIfNew, Option.or_assoc, List.lookup_cons]
    by_cases hk : k = j
    · simp [hk]
    · simp [hk, beq_eq_false_iff_ne.2 hk]

/-- A key has what its last entry in the list says. -/
theorem get?_ofList (es : List (String × α)) (k : String) :
    (ofList es).get? k = ((es.filter (·.1 == k)).getLast?).map (·.2) := by
  have hfold (l : List (String × α)) :
      (l.foldr (fun e m => NameMap.insert m e.1 e.2) ∅).get? k = (l.find? (·.1 == k)).map (·.2) := by
    induction l with
    | nil => rfl
    | cons e l ih =>
      rw [List.foldr_cons, get?_insert, ih, List.find?_cons]
      by_cases hk : k = e.1
      · simp [hk]
      · simp [hk, beq_eq_false_iff_ne.2 (Ne.symm hk)]
  rw [List.getLast?_filter, ← hfold, List.foldr_reverse]
  rfl

/-- What a key has in the map of a list comes from the list. -/
theorem mem_of_get?_ofList {es : List (String × α)} {k : String} {v : α} (h : (ofList es).get? k = some v) :
    (k, v) ∈ es := by
  rw [get?_ofList] at h
  obtain ⟨e, he, rfl⟩ := Option.map_eq_some_iff.1 h
  obtain ⟨hmem, hk⟩ := List.mem_filter.1 (List.mem_of_getLast? he)
  rw [← eq_of_beq hk]
  exact hmem

/-- A key of the list has something in the map. -/
theorem exists_get?_ofList {es : List (String × α)} {k : String} {v : α} (hm : (k, v) ∈ es) :
    ∃ w, (ofList es).get? k = some w := by
  have hne : es.filter (·.1 == k) ≠ [] := List.ne_nil_of_mem (List.mem_filter.2 ⟨hm, beq_self_eq_true k⟩)
  rw [get?_ofList, List.getLast?_eq_some_getLast hne]
  exact ⟨_, rfl⟩

/-- In a list in which all entries of a key have one value, the key has it in the map too. -/
theorem get?_ofList_of_forall {es : List (String × α)} {k : String} {v : α} (hm : (k, v) ∈ es)
    (h : ∀ w, (k, w) ∈ es → w = v) : (ofList es).get? k = some v := by
  obtain ⟨w, hw⟩ := exists_get?_ofList hm
  rw [hw, h w (mem_of_get?_ofList hw)]

/-- A map is the map of its entries. -/
theorem ofList_toList (m : NameMap α) : ofList m.toList = m := by
  refine ext_get? fun k => Option.ext fun v => ⟨fun hv => ?_, fun hv => ?_⟩
  · exact mem_entries_iff.1 (mem_of_get?_ofList hv)
  · refine get?_ofList_of_forall (mem_entries_iff.2 hv) fun w hw => ?_
    exact Option.some.inj ((mem_entries_iff.1 hw).symm.trans hv)

/-- In the map of a list of things with different names, each is under its own. -/
theorem get?_ofList_map_iff {name : α → String} {l : List α} (h : (l.map name).Nodup) {k : String} {v : α} :
    (ofList (l.map (fun a => (name a, a)))).get? k = some v ↔ v ∈ l ∧ name v = k := by
  constructor
  · intro hv
    obtain ⟨a, ha, he⟩ := List.mem_map.1 (mem_of_get?_ofList hv)
    obtain ⟨hn, rfl⟩ := Prod.mk.inj he
    exact ⟨ha, hn⟩
  · rintro ⟨hv, rfl⟩
    refine get?_ofList_of_forall (List.mem_map.2 ⟨v, hv, rfl⟩) fun w hw => ?_
    obtain ⟨a, ha, he⟩ := List.mem_map.1 hw
    obtain ⟨hn, rfl⟩ := Prod.mk.inj he
    exact List.inj_on_of_nodup_map h ha hv hn

/-- A set of names has the names of the list. -/
theorem get?_ofNames (names : List String) (k : String) :
    (ofList (names.map (fun n => (n, ())))).get? k = if k ∈ names then some () else none := by
  split
  · next hk =>
    obtain ⟨w, hw⟩ := exists_get?_ofList (List.mem_map.2 ⟨k, hk, rfl⟩ : (k, ()) ∈ names.map (fun n => (n, ())))
    exact hw
  · next hk =>
    refine Option.eq_none_iff_forall_ne_some.2 fun v hv => hk ?_
    obtain ⟨n, hn, he⟩ := List.mem_map.1 (mem_of_get?_ofList hv)
    rw [← (Prod.mk.inj he).1]
    exact hn

/-- Lists with the same entries make the same map, if no key has two values. -/
theorem ofList_congr {es es' : List (String × α)} (h : ∀ e, e ∈ es ↔ e ∈ es')
    (hone : ∀ k v w, (k, v) ∈ es → (k, w) ∈ es → v = w) : ofList es = ofList es' := by
  refine ext_get? fun k => Option.ext fun v => ⟨fun hv => ?_, fun hv => ?_⟩
  · have hmem := mem_of_get?_ofList hv
    exact get?_ofList_of_forall ((h _).1 hmem) fun w hw => hone k w v ((h _).2 hw) hmem
  · have hmem := (h _).2 (mem_of_get?_ofList hv)
    exact get?_ofList_of_forall hmem fun w hw => hone k w v hw hmem

/-- Lists with the same names make the same set. -/
theorem ofNames_congr {names names' : List String} (h : ∀ n, n ∈ names ↔ n ∈ names') :
    ofList (names.map (fun n => (n, ()))) = ofList (names'.map (fun n => (n, ()))) := by
  refine ofList_congr (fun e => ?_) fun k v w _ _ => rfl
  simp only [List.mem_map, h]

/-- The look-up in a list in which the value of a key is told by the key. -/
theorem lookup_map_names (names : List String) (f : String → α) (k : String) :
    (names.map (fun n => (n, f n))).lookup k = if k ∈ names then some (f k) else none := by
  induction names with
  | nil => rfl
  | cons n names ih =>
    rw [List.map_cons, List.lookup_cons, ih]
    by_cases hk : k = n
    · simp [hk]
    · simp [hk, beq_eq_false_iff_ne.2 hk]

end NameMap

/-! ### Sets of names -/

theorem mem_sortedNames_iff {names : List String} {n : String} : n ∈ sortedNames names ↔ n ∈ names := by
  rw [sortedNames, NameMap.mem_keys_iff, NameMap.get?_ofNames]
  by_cases hn : n ∈ names
  · simp [hn]
  · simp [hn]

theorem pairwise_sortedNames (names : List String) : (sortedNames names).Pairwise (· < ·) :=
  NameMap.pairwise_keys _

/-- A set of names is the only list that ascends and has the names. -/
theorem sortedNames_eq_iff {names ns : List String} :
    sortedNames names = ns ↔ ns.Pairwise (· < ·) ∧ ∀ n, n ∈ ns ↔ n ∈ names := by
  constructor
  · rintro rfl
    exact ⟨pairwise_sortedNames names, fun n => mem_sortedNames_iff⟩
  · rintro ⟨hasc, hmem⟩
    exact NameMap.eq_of_ascending id (pairwise_sortedNames names) hasc fun n => mem_sortedNames_iff.trans (hmem n).symm

/-- A set of names has at most one if all of them are the same. -/
theorem length_sortedNames_le_one_iff {names : List String} :
    (sortedNames names).length ≤ 1 ↔ ∀ n ∈ names, ∀ n' ∈ names, n = n' := by
  constructor
  · intro hlen n hn n' hn'
    rw [← mem_sortedNames_iff] at hn hn'
    match hs : sortedNames names with
    | [] => simp [hs] at hn
    | [m] =>
      rw [hs, List.mem_singleton] at hn hn'
      rw [hn, hn']
    | m :: m' :: ms => simp [hs] at hlen
  · intro hall
    have hasc := pairwise_sortedNames names
    match hs : sortedNames names with
    | [] => simp
    | [m] => simp
    | m :: m' :: ms =>
      -- the first two would be different
      have hm : m ∈ names := mem_sortedNames_iff.1 (by simp [hs])
      have hm' : m' ∈ names := mem_sortedNames_iff.1 (by simp [hs])
      rw [hs] at hasc
      have hlt : m < m' := List.rel_of_pairwise_cons hasc List.mem_cons_self
      rw [hall m hm m' hm'] at hlt
      exact absurd hlt (String.lt_irrefl _)

end LocalVolumes
