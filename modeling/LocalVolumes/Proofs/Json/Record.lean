import LocalVolumes.Metadata
import LocalVolumes.Proofs.Lists
import LocalVolumes.Proofs.NameMap

/-!
# LocalVolumes.Proofs.Json.Record — records that are read as they were written

A record is written as the object of its parts that are present.  Whoever reads it finds under each name just what was
written there, and nothing under the name of an absent part.  So a record is read back if each of its parts is.
-/

namespace LocalVolumes.Json.Draft

variable {α : Type}

/-! ### Drafts of values -/

mutual
/-- The draft of a value has no faults. -/
theorem isWhole_ofJson : ∀ v : Json, (ofJson v).isWhole = true
  | .null => rfl
  | .bool _ => rfl
  | .integer _ => rfl
  | .real _ => rfl
  | .string _ => rfl
  | .array vs => by rw [ofJson, isWhole, areWhole_ofItems vs, Bool.and_true]
  | .object fs => by rw [ofJson, isWhole, fieldsAreWhole_ofFields fs, Bool.and_true]

theorem areWhole_ofItems : ∀ vs : List Json, areWhole (ofItems vs) = true
  | [] => rfl
  | v :: vs => by rw [ofItems, areWhole, isWhole_ofJson v, areWhole_ofItems vs, Bool.and_true]

theorem fieldsAreWhole_ofFields : ∀ fs : List (String × Json), fieldsAreWhole (ofFields fs) = true
  | [] => rfl
  | (_, v) :: fs => by rw [ofFields, fieldsAreWhole, isWhole_ofJson v, fieldsAreWhole_ofFields fs, Bool.and_true]
end

theorem ofItems_eq_map (vs : List Json) : ofItems vs = vs.map ofJson := by
  induction vs with
  | nil => rfl
  | cons v vs ih => rw [ofItems, ih, List.map_cons]

theorem ofFields_eq_map (fs : List (String × Json)) : ofFields fs = fs.map (fun f => (some f.1, ofJson f.2)) := by
  induction fs with
  | nil => rfl
  | cons f fs ih => rw [ofFields, ih, List.map_cons]

theorem ofJson_ne_null {v : Json} (h : v ≠ .null) : ofJson v ≠ .null := by
  cases v with
  | null => exact absurd rfl h
  | _ => exact nofun

theorem fields?_ofJson (fs : List (String × Json)) :
    (ofJson (.object fs)).fields? = some (fs.map (fun f => (f.1, ofJson f.2))) := by
  rw [ofJson, fields?, ofFields_eq_map, mapM_eq_some_iff, List.map_map, List.map_map]
  rfl

/-! ### Parts of records -/

/-- What a record holds that is written: the drafts of the parts that are present. -/
def written (parts : List (String × Option Json)) : List (String × Draft) :=
  parts.filterMap (fun p => p.2.map (fun v => (p.1, ofJson v)))

variable {parts : List (String × Option Json)}

theorem fields?_objectOf (parts : List (String × Option Json)) :
    (ofJson (objectOf parts)).fields? = some (written parts) := by
  have hone (p : String × Option Json) :
      (p.2.map (p.1, ·)).map (fun f => (f.1, ofJson f.2)) = p.2.map (fun v => (p.1, ofJson v)) := Option.map_map ..
  simp only [objectOf, fields?_ofJson, List.map_filterMap, hone]
  rfl

theorem isWhole_of_mem_written {f : String × Draft} (h : f ∈ written parts) : f.2.isWhole = true := by
  obtain ⟨p, -, hp⟩ := List.mem_filterMap.1 h
  obtain ⟨v, -, rfl⟩ := Option.map_eq_some_iff.1 hp
  exact isWhole_ofJson v

/-- Under a name a record has what was written there. -/
theorem filter_written (h : (parts.map Prod.fst).Nodup) (n : String) :
    (written parts).filter (·.1 == n) = ((parts.lookup n).join.map (fun v => (n, ofJson v))).toList := by
  induction parts with
  | nil => rfl
  | cons p parts ih =>
    obtain ⟨k, v⟩ := p
    rw [List.map_cons, List.nodup_cons] at h
    have hcons : written ((k, v) :: parts) = (v.map (fun v => (k, ofJson v))).toList ++ written parts := by
      cases v <;> rfl
    rw [hcons, List.filter_append, ih h.2]
    by_cases hk : n = k
    · subst hk
      -- no other part has this name
      have hnone : parts.lookup n = none := by
        refine List.lookup_eq_none_iff.2 fun q hq => bne_iff_ne.2 fun hn => h.1 ?_
        exact List.mem_map.2 ⟨q, hq, hn.symm⟩
      rw [hnone, List.lookup_cons_self]
      cases v <;> simp
    · have hne : (n == k) = false := beq_eq_false_iff_ne.2 hk
      have hne' : (k == n) = false := beq_eq_false_iff_ne.2 (Ne.symm hk)
      rw [List.lookup_cons, hne]
      cases v <;> simp [hne']

theorem lookup_eq_head?_filter (fields : List (String × Draft)) (n : String) :
    fields.lookup n = (fields.filter (·.1 == n)).head?.map Prod.snd := by
  induction fields with
  | nil => rfl
  | cons f fields ih =>
    rw [List.lookup_cons, List.filter_cons]
    by_cases hn : n = f.1
    · simp [hn]
    · rw [beq_eq_false_iff_ne.2 hn, beq_eq_false_iff_ne.2 (Ne.symm hn)]
      exact ih

@[simp] theorem lookup_written (h : (parts.map Prod.fst).Nodup) (n : String) :
    (written parts).lookup n = (parts.lookup n).join.map ofJson := by
  rw [lookup_eq_head?_filter, filter_written h]
  cases (parts.lookup n).join <;> rfl

@[simp] theorem last?_written (h : (parts.map Prod.fst).Nodup) (n : String) (read : Draft → Option α) :
    last? (written parts) n read = optional? read ((parts.lookup n).join.map ofJson) := by
  rw [last?, filter_written h]
  cases (parts.lookup n).join with
  | none => rfl
  | some v =>
    simp only [Option.map_some, Option.toList_some, List.mapM_cons, List.mapM_nil, Option.bind_eq_bind, Option.pure_def,
      Option.bind_some, Option.bind_assoc]
    cases optional? read (some (ofJson v)) <;> rfl

/-! ### Records -/

@[simp] theorem lenientRecord?_objectOf (names : List String) (parts : List (String × Option Json)) :
    (ofJson (objectOf parts)).lenientRecord? names = some (written parts) := by
  rw [lenientRecord?, fields?_objectOf, Option.filter_some_pos]
  refine List.all_eq_true.2 fun f hf => ?_
  rw [isWhole_of_mem_written hf, Bool.or_true]

@[simp] theorem record?_objectOf (h : (parts.map Prod.fst).Nodup) (names : List String) :
    (ofJson (objectOf parts)).record? names = some (written parts) := by
  have hdistinct : areDistinct names (written parts) = true := by
    refine Bool.and_eq_true_iff.2 ⟨List.all_eq_true.2 fun f hf => ?_, List.all_eq_true.2 fun n _ => ?_⟩
    · rw [isWhole_of_mem_written hf, Bool.or_true]
    · rw [List.countP_eq_length_filter, filter_written h]
      cases (parts.lookup n).join <;> rfl
  have hobject : (ofJson (objectOf parts)).record? names =
      (ofJson (objectOf parts)).fields?.filter (areDistinct names) := rfl
  rw [hobject, fields?_objectOf, Option.filter_some_pos hdistinct]

@[simp] theorem wholeRecord?_objectOf (h : (parts.map Prod.fst).Nodup) (names : List String) :
    (ofJson (objectOf parts)).wholeRecord? names = some (written parts) := record?_objectOf h names

/-! ### Reading back -/

/-- A value is read back from what is written of it, which is not null: null would be taken for an absent part. -/
structure ReadsBack (write : α → Json) (read : Draft → Option α) (a : α) : Prop where
  ne_null : write a ≠ .null
  back : read (.ofJson (write a)) = some a

variable {write : α → Json} {read : Draft → Option α}

theorem optional?_of_ne_null {d : Draft} (h : d ≠ .null) : optional? read (some d) = (read d).map some := by
  cases d with
  | null => exact absurd rfl h
  | _ => rfl

/-- A part that may be absent is read back, and absent if it was. -/
theorem optional?_written {x : Option α} (h : ∀ a ∈ x, ReadsBack write read a) :
    optional? read (x.map (ofJson ∘ write)) = some x := by
  cases x with
  | none => rfl
  | some a =>
    have ha := h a rfl
    rw [Option.map_some, Function.comp_apply, optional?_of_ne_null (ofJson_ne_null ha.ne_null), ha.back,
      Option.map_some]

theorem readsBack_text (s : String) : ReadsBack .string text? s := ⟨nofun, rfl⟩

@[simp] theorem text?_ofJson_string (s : String) : (ofJson (.string s)).text? = some s := rfl

@[simp] theorem word?_ofJson_string (s : String) : (ofJson (.string s)).word? = some s := rfl

@[simp] theorem optional?_ofJson_string (s : String) :
    optional? text? (some (ofJson (.string s))) = some (some s) := rfl

@[simp] theorem optional?_text (x : Option String) : optional? text? (x.map (ofJson ∘ .string)) = some x :=
  optional?_written fun s _ => readsBack_text s

theorem readsBack_bool (b : Bool) : ReadsBack .bool bool? b := ⟨nofun, rfl⟩

theorem readsBack_int64 {n : Int} (h : Int64.minValue.toInt ≤ n ∧ n ≤ Int64.maxValue.toInt) :
    ReadsBack .integer int64? n := ⟨nofun, if_pos h⟩

/-- A word of a closed list is read back if the list has it. -/
theorem readsBack_word {word : α → String} {ofWord? : String → Option α} {a : α} (h : ofWord? (word a) = some a) :
    ReadsBack (fun a => .string (word a)) (fun d => d.word?.bind ofWord?) a := ⟨nofun, h⟩

/-- A list is read back if its items are. -/
theorem readsBack_items {l : List α} (h : ∀ a ∈ l, ReadsBack write read a) :
    ReadsBack (fun l => .array (l.map write)) (items? read) l := by
  refine ⟨nofun, ?_⟩
  rw [ofJson, items?, ofItems_eq_map, mapM_eq_some_iff, List.map_map, List.map_map]
  exact List.map_congr_left fun a ha => (h a ha).back

/-- A map of texts is read back: its entries are in order, so writing loses none of them. -/
theorem readsBack_textMap (m : NameMap String) : ReadsBack NameMap.toJson textMap? m := by
  refine ⟨nofun, ?_⟩
  have htexts : (m.toList.map (fun e => (e.1, ofJson (.string e.2)))).mapM (fun f => f.2.text?.map (f.1, ·)) =
      some m.toList := by
    rw [mapM_eq_some_iff, List.map_map]
    rfl
  simp only [textMap?, NameMap.toJson, fields?_ofJson, List.map_map, Option.bind_eq_bind, Option.bind_some]
  rw [show ((fun f : String × Json => (f.1, ofJson f.2)) ∘ fun e : String × String => (e.1, Json.string e.2)) =
    fun e => (e.1, ofJson (.string e.2)) from rfl, htexts, Option.bind_some, NameMap.ofList_toList]
  rfl

@[simp] theorem optional?_textMap (x : Option (NameMap String)) :
    optional? textMap? (x.map (ofJson ∘ NameMap.toJson)) = some x :=
  optional?_written fun m _ => readsBack_textMap m

/-! ### What is read -/

theorem of_optional? {d : Option Draft} {x : Option α} (h : optional? read d = some x) :
    ∀ a ∈ x, ∃ d, d ≠ .null ∧ read d = some a := by
  rintro a rfl
  cases d with
  | none => cases h
  | some d =>
    by_cases hnull : d = .null
    · subst hnull
      cases h
    · rw [optional?_of_ne_null hnull, Option.map_eq_some_iff] at h
      obtain ⟨b, hread, hb⟩ := h
      exact ⟨d, hnull, Option.some.inj hb ▸ hread⟩

/-- A part of a lenient record comes from a draft that is there. -/
theorem of_last? {fields : List (String × Draft)} {n : String} {x : Option α} (h : last? fields n read = some x) :
    ∀ a ∈ x, ∃ d, d ≠ .null ∧ read d = some a := by
  rintro a rfl
  simp only [last?, Option.bind_eq_bind, Option.bind_eq_some_iff, Option.pure_def, Option.some.injEq] at h
  obtain ⟨values, hvalues, hlast⟩ := h
  obtain ⟨f, -, hf⟩ := exists_of_mem_mapM hvalues (List.mem_of_getLast? (Option.join_eq_some_iff.1 hlast))
  exact of_optional? hf a rfl

theorem of_items? {d : Draft} {l : List α} (h : items? read d = some l) : ∀ a ∈ l, ∃ d, read d = some a := by
  unfold items? at h
  split at h
  · intro a ha
    obtain ⟨d, -, hd⟩ := exists_of_mem_mapM h ha
    exact ⟨d, hd⟩
  · exact nomatch h

end LocalVolumes.Json.Draft
