import LocalVolumes.Json.Draft

/-!
# LocalVolumes.Proofs.Json.Sorted — values whose objects have their keys in order

An object that is kept as it is, whatever it holds, has its keys in ascending order.  Every value that is read is of
that form, and a value of that form is read back from what is written of it.
-/

namespace LocalVolumes

namespace NameMap

variable {α : Type}

theorem insertEntry_of_last {k : String} {v : α} {es : List (String × α)} (h : ∀ e ∈ es, e.1 < k) :
    insertEntry k v es = es ++ [(k, v)] := by
  induction es with
  | nil => rfl
  | cons e es ih =>
    obtain ⟨he, hes⟩ := List.forall_mem_cons.1 h
    have hlt : ¬ k < e.1 := String.lt_asymm he
    have hne : k ≠ e.1 := fun hk => String.lt_irrefl _ (hk ▸ he)
    rw [insertEntry, if_neg hlt, if_neg hne, ih hes, List.cons_append]

end NameMap

namespace Json

mutual
/-- The keys of every object in a value ascend strictly. -/
def IsSorted : Json → Prop
  | .array items => AreSorted items
  | .object fields => fields.Pairwise (fun a b => a.1 < b.1) ∧ FieldsAreSorted fields
  | _ => True

/-- The same of all of the items. -/
def AreSorted : List Json → Prop
  | [] => True
  | v :: vs => IsSorted v ∧ AreSorted vs

/-- The same of the values of all of the fields. -/
def FieldsAreSorted : List (String × Json) → Prop
  | [] => True
  | (_, v) :: fs => IsSorted v ∧ FieldsAreSorted fs
end

theorem fieldsAreSorted_iff {fs : List (String × Json)} : FieldsAreSorted fs ↔ ∀ f ∈ fs, f.2.IsSorted := by
  induction fs with
  | nil => simp [FieldsAreSorted]
  | cons f fs ih => rw [FieldsAreSorted, ih, List.forall_mem_cons]

namespace Draft

/-! ### What is written is read -/

mutual
theorem toJson?_ofJson : ∀ {v : Json}, v.IsSorted → toJson? (ofJson v) = some v
  | .null, _ => rfl
  | .bool _, _ => rfl
  | .integer _, _ => rfl
  | .real _, _ => rfl
  | .string _, _ => rfl
  | .array vs, h => by
    rw [IsSorted] at h
    rw [ofJson, toJson?, itemsToJson?_ofItems h, Option.map_some]
  | .object fs, h => by
    rw [IsSorted] at h
    rw [ofJson, toJson?, fieldsToJson?_ofFields [] h.1 h.2, Option.map_some, List.nil_append]

theorem itemsToJson?_ofItems : ∀ {vs : List Json}, AreSorted vs → itemsToJson? (ofItems vs) = some vs
  | [], _ => rfl
  | v :: vs, h => by
    rw [AreSorted] at h
    simp only [ofItems, itemsToJson?, toJson?_ofJson h.1, itemsToJson?_ofItems h.2, Option.bind_eq_bind,
      Option.bind_some]

/-- The fields come after those before, because their keys do. -/
theorem fieldsToJson?_ofFields : ∀ {fs : List (String × Json)} (done : List (String × Json)),
    (done ++ fs).Pairwise (fun a b => a.1 < b.1) → FieldsAreSorted fs →
      fieldsToJson? (ofFields fs) done = some (done ++ fs)
  | [], done, _, _ => by rw [ofFields, fieldsToJson?, List.append_nil]
  | (k, v) :: fs, done, hkeys, h => by
    rw [FieldsAreSorted] at h
    have hlast : ∀ e ∈ done, e.1 < k := fun e he => (List.pairwise_append.1 hkeys).2.2 e he (k, v) List.mem_cons_self
    have happend : done ++ (k, v) :: fs = (done ++ [(k, v)]) ++ fs := List.append_cons ..
    rw [happend] at hkeys ⊢
    simp only [ofFields, fieldsToJson?, toJson?_ofJson h.1, Option.bind_eq_bind, Option.bind_some,
      NameMap.insertEntry_of_last hlast, fieldsToJson?_ofFields _ hkeys h.2]
end

/-! ### What is read is sorted -/

mutual
theorem isSorted_of_toJson? : ∀ {d : Draft} {v : Json}, toJson? d = some v → v.IsSorted
  | .null, _, h | .bool _, _, h | .integer _, _, h | .real _, _, h | .string _, _, h => by
    obtain rfl := Option.some.inj h
    trivial
  | .array ds true, _, h => by
    rw [toJson?, Option.map_eq_some_iff] at h
    obtain ⟨vs, hvs, rfl⟩ := h
    exact areSorted_of_itemsToJson? hvs
  | .object ds true, _, h => by
    rw [toJson?, Option.map_eq_some_iff] at h
    obtain ⟨fs, hfs, rfl⟩ := h
    exact fieldsAreSorted_of_fieldsToJson? .nil trivial hfs
  | .array _ false, _, h | .object _ false, _, h | .broken, _, h | .excessive, _, h | .unpaired, _, h => nomatch h

theorem areSorted_of_itemsToJson? : ∀ {ds : List Draft} {vs : List Json}, itemsToJson? ds = some vs → AreSorted vs
  | [], _, h => by
    obtain rfl := Option.some.inj h
    trivial
  | d :: ds, _, h => by
    simp only [itemsToJson?, Option.bind_eq_bind, Option.bind_eq_some_iff, Option.some.injEq] at h
    obtain ⟨v, hv, vs, hvs, rfl⟩ := h
    exact ⟨isSorted_of_toJson? hv, areSorted_of_itemsToJson? hvs⟩

/-- Fields that are put among sorted ones in their places leave them sorted. -/
theorem fieldsAreSorted_of_fieldsToJson? : ∀ {ds : List (Option String × Draft)} {done fs : List (String × Json)},
    done.Pairwise (fun a b => a.1 < b.1) → FieldsAreSorted done → fieldsToJson? ds done = some fs →
      fs.Pairwise (fun a b => a.1 < b.1) ∧ FieldsAreSorted fs
  | [], _, _, hkeys, hdone, h => by
    obtain rfl := Option.some.inj h
    exact ⟨hkeys, hdone⟩
  | (some k, d) :: ds, done, fs, hkeys, hdone, h => by
    simp only [fieldsToJson?, Option.bind_eq_bind, Option.bind_eq_some_iff] at h
    obtain ⟨v, hv, h⟩ := h
    have hinsert : FieldsAreSorted (NameMap.insertEntry k v done) := by
      refine fieldsAreSorted_iff.2 fun f hf => ?_
      rcases NameMap.mem_insertEntry hf with rfl | hf
      · exact isSorted_of_toJson? hv
      · exact fieldsAreSorted_iff.1 hdone f hf
    exact fieldsAreSorted_of_fieldsToJson? (NameMap.pairwise_insertEntry hkeys) hinsert h
  | (none, _) :: _, _, _, _, _, h => nomatch h
end

/-- Only null is read as null. -/
theorem toJson?_ne_null {d : Draft} (h : d ≠ .null) : toJson? d ≠ some .null := by
  intro hnull
  cases d with
  | null => exact h rfl
  | array ds closed => cases closed <;> simp [toJson?] at hnull
  | object ds closed => cases closed <;> simp [toJson?] at hnull
  | _ => simp [toJson?] at hnull

end Draft

end Json

end LocalVolumes
