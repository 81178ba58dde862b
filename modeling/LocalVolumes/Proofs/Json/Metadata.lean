import LocalVolumes.Proofs.Json.Record
import LocalVolumes.Proofs.Json.Sorted
import LocalVolumes.Proofs.Timestamp

/-!
# LocalVolumes.Proofs.Json.Metadata — metadata that is read as it was written

All parts of the metadata survive being written, the absent ones as absent and the empty ones as empty.  Three kinds of
parts do so only within bounds: numbers have 64 bits, a point in time has to be there, and what the managers of fields
keep has its keys in order.  Metadata that is read always keeps to them.
-/

namespace LocalVolumes

open Json Json.Draft

theorem Timestamp.readsBack {t : Timestamp} (h : t.IsValid) : ReadsBack Timestamp.toJson Timestamp.ofDraft? t := by
  refine ⟨nofun, ?_⟩
  rw [Timestamp.toJson, ofJson, Timestamp.ofDraft?, Draft.text?, Option.bind_some, Timestamp.ofText?_text h]

theorem Timestamp.isValid_of_ofDraft? {d : Draft} {t : Timestamp} (h : Timestamp.ofDraft? d = some t) : t.IsValid := by
  obtain ⟨s, -, hs⟩ := Option.bind_eq_some_iff.1 h
  exact Timestamp.isValid_of_ofText? hs

/-! ### Owners and managers -/

theorem OwnerReference.readsBack (r : OwnerReference) : ReadsBack toJson ofDraft? r := by
  refine ⟨nofun, ?_⟩
  have hbool (x : Option Bool) : optional? bool? (x.map (ofJson ∘ .bool)) = some x :=
    optional?_written fun b _ => readsBack_bool b
  simp [toJson, ofDraft?, List.lookup_cons, hbool]

namespace FieldsManager

/-- What a manager keeps: a time that is there, and fields that are not null and have their keys in order. -/
structure Fits (m : FieldsManager) : Prop where
  time : ∀ t ∈ m.time, t.IsValid
  fields : ∀ v ∈ m.fields, v ≠ .null ∧ v.IsSorted

theorem readsBack {m : FieldsManager} (h : m.Fits) : ReadsBack toJson ofDraft? m := by
  refine ⟨nofun, ?_⟩
  have htime : optional? Timestamp.ofDraft? (m.time.map (ofJson ∘ Timestamp.toJson)) = some m.time :=
    optional?_written fun t ht => Timestamp.readsBack (h.time t ht)
  have hfields : optional? toJson? (m.fields.map (ofJson ∘ id)) = some m.fields :=
    optional?_written fun v hv => ⟨(h.fields v hv).1, toJson?_ofJson (h.fields v hv).2⟩
  rw [Function.comp_id] at hfields
  simp [toJson, ofDraft?, List.lookup_cons, htime, hfields]

theorem fits_of_ofDraft? {d : Draft} {m : FieldsManager} (h : ofDraft? d = some m) : m.Fits := by
  simp only [ofDraft?, Option.bind_eq_bind, Option.bind_eq_some_iff, Option.pure_def, Option.some.injEq] at h
  obtain ⟨_, -, _, -, _, -, _, -, time, htime, _, -, fields, hfields, _, -, rfl⟩ := h
  constructor
  · intro t ht
    obtain ⟨_, -, hread⟩ := of_last? htime t ht
    exact Timestamp.isValid_of_ofDraft? hread
  · intro v hv
    obtain ⟨_, hne, hread⟩ := of_last? hfields v hv
    exact ⟨fun hnull => toJson?_ne_null hne (hnull ▸ hread), isSorted_of_toJson? hread⟩

end FieldsManager

/-! ### Metadata -/

namespace Metadata

/-- A number of 64 bits. -/
def IsInt64 (n : Int) : Prop := Int64.minValue.toInt ≤ n ∧ n ≤ Int64.maxValue.toInt

/-- What metadata can hold: numbers of 64 bits, points in time that are there, and managers whose parts fit. -/
structure Fits (m : Metadata) : Prop where
  generation : ∀ n ∈ m.generation, IsInt64 n
  deletionGracePeriodSeconds : ∀ n ∈ m.deletionGracePeriodSeconds, IsInt64 n
  creationTimestamp : ∀ t ∈ m.creationTimestamp, t.IsValid
  deletionTimestamp : ∀ t ∈ m.deletionTimestamp, t.IsValid
  managedFields : ∀ fs ∈ m.managedFields, ∀ f ∈ fs, f.Fits

theorem readsBack {m : Metadata} (h : m.Fits) : ReadsBack toJson ofDraft? m := by
  refine ⟨nofun, ?_⟩
  have hnames : parts.Nodup := by decide
  have hnumber (x : Option Int) (hx : ∀ n ∈ x, IsInt64 n) : optional? int64? (x.map (ofJson ∘ .integer)) = some x :=
    optional?_written fun n hn => readsBack_int64 (hx n hn)
  have htime (x : Option Timestamp) (hx : ∀ t ∈ x, t.IsValid) :
      optional? Timestamp.ofDraft? (x.map (ofJson ∘ Timestamp.toJson)) = some x :=
    optional?_written fun t ht => Timestamp.readsBack (hx t ht)
  have hfinalizers : optional? (items? text?) (m.finalizers.map (ofJson ∘ Json.strings)) = some m.finalizers :=
    optional?_written fun _ _ => readsBack_items fun s _ => readsBack_text s
  have howners : optional? (items? OwnerReference.ofDraft?)
      (m.ownerReferences.map (ofJson ∘ fun rs => .array (rs.map (·.toJson)))) = some m.ownerReferences :=
    optional?_written fun _ _ => readsBack_items fun r _ => r.readsBack
  have hmanagers : optional? (items? FieldsManager.ofDraft?)
      (m.managedFields.map (ofJson ∘ fun fs => .array (fs.map (·.toJson)))) = some m.managedFields :=
    optional?_written fun fs hfs => readsBack_items fun f hf => FieldsManager.readsBack (h.managedFields fs hfs f hf)
  rw [parts] at hnames
  simp only [toJson, ofDraft?, lenientRecord?_objectOf, last?_written, List.map_cons, List.map_nil, hnames,
    List.lookup_cons, String.reduceBEq, Option.join_some, Option.map_map, some_bind_eq, optional?_text,
    optional?_textMap, hnumber _ h.generation, hnumber _ h.deletionGracePeriodSeconds, htime _ h.creationTimestamp,
    htime _ h.deletionTimestamp, hfinalizers, howners, hmanagers, Option.pure_def]

theorem isInt64_of_int64? {d : Draft} {n : Int} (h : int64? d = some n) : IsInt64 n := by
  unfold int64? at h
  split at h
  · split at h
    · next hrange =>
      obtain rfl := Option.some.inj h
      exact hrange
    · exact nomatch h
  · exact nomatch h

theorem fits_of_ofDraft? {d : Draft} {m : Metadata} (h : ofDraft? d = some m) : m.Fits := by
  simp only [ofDraft?, bind_eq_some_iff, Option.pure_def, Option.some.injEq] at h
  obtain ⟨_, -, _, -, _, -, _, -, _, -, _, -, _, -, _, -, _, hmanagers, _, -, _, hgeneration, _, -, _, -, _, hcreation,
    _, hdeletion, _, hgrace, rfl⟩ := h
  have hnumber {x : Option Int} {fields : List (String × Draft)} {name : String}
      (hx : last? fields name int64? = some x) : ∀ n ∈ x, IsInt64 n := fun n hn => by
    obtain ⟨_, -, hread⟩ := of_last? hx n hn
    exact isInt64_of_int64? hread
  have htime {x : Option Timestamp} {fields : List (String × Draft)} {name : String}
      (hx : last? fields name Timestamp.ofDraft? = some x) : ∀ t ∈ x, t.IsValid := fun t ht => by
    obtain ⟨_, -, hread⟩ := of_last? hx t ht
    exact Timestamp.isValid_of_ofDraft? hread
  refine ⟨hnumber hgeneration, hnumber hgrace, htime hcreation, htime hdeletion, fun fs hfs f hf => ?_⟩
  obtain ⟨_, -, hitems⟩ := of_last? hmanagers fs hfs
  obtain ⟨_, hread⟩ := of_items? hitems f hf
  exact FieldsManager.fits_of_ofDraft? hread

/-- Metadata fits just if there is something of which it can be read. -/
theorem fits_iff {m : Metadata} : m.Fits ↔ ∃ d, ofDraft? d = some m :=
  ⟨fun h => ⟨_, (readsBack h).back⟩, fun ⟨_, h⟩ => fits_of_ofDraft? h⟩

end Metadata

end LocalVolumes
