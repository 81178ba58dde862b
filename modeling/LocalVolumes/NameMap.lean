/-!
# LocalVolumes.NameMap — finite maps from names to values

Labels, annotations, parameters and the tables of a cluster are maps keyed by names.  The entries are
kept in strictly ascending order of their keys, so two maps with the same entries are equal, and a map
written out twice is written the same way twice.
-/

namespace LocalVolumes

/-- A finite map with names as keys, its entries in strictly ascending order. -/
structure NameMap (α : Type) where
  entries : List (String × α)
  ascending : entries.Pairwise (fun a b => a.1 < b.1)
  deriving DecidableEq

namespace NameMap

variable {α β : Type}

/-! ### Entries in ascending order -/

/-- Puts an entry in its place; an entry of the same key gives way. -/
def insertEntry (k : String) (v : α) : List (String × α) → List (String × α)
  | [] => [(k, v)]
  | e :: es =>
    if k < e.1 then (k, v) :: e :: es
    else if k = e.1 then (k, v) :: es
    else e :: insertEntry k v es

theorem mem_insertEntry {k : String} {v : α} {es : List (String × α)} {x : String × α}
    (h : x ∈ insertEntry k v es) : x = (k, v) ∨ x ∈ es := by
  induction es with
  | nil => simpa [insertEntry] using h
  | cons e es ih =>
    simp only [insertEntry] at h
    split at h
    · simpa using h
    · split at h
      · rcases List.mem_cons.1 h with h | h
        · exact .inl h
        · exact .inr (List.mem_cons_of_mem _ h)
      · rcases List.mem_cons.1 h with h | h
        · exact .inr (h ▸ List.mem_cons_self)
        · exact (ih h).imp id (List.mem_cons_of_mem _)

theorem lt_of_not_lt_of_ne {a b : String} (h : ¬ a < b) (hne : a ≠ b) : b < a := by
  have hle : b ≤ a := String.not_lt.1 h
  exact Std.lt_of_le_of_ne hle (fun e => hne e.symm)

theorem pairwise_insertEntry {k : String} {v : α} {es : List (String × α)}
    (h : es.Pairwise (fun a b => a.1 < b.1)) :
    (insertEntry k v es).Pairwise (fun a b => a.1 < b.1) := by
  induction es with
  | nil => simp [insertEntry]
  | cons e es ih =>
    obtain ⟨he, hes⟩ := List.pairwise_cons.1 h
    simp only [insertEntry]
    split
    · next hlt =>
      refine List.pairwise_cons.2 ⟨fun x hx => ?_, h⟩
      rcases List.mem_cons.1 hx with rfl | hx
      · exact hlt
      · exact String.lt_trans hlt (he x hx)
    · next hlt =>
      split
      · next heq => exact List.pairwise_cons.2 ⟨fun x hx => heq ▸ he x hx, hes⟩
      · next hne =>
        refine List.pairwise_cons.2 ⟨fun x hx => ?_, ih hes⟩
        rcases mem_insertEntry hx with rfl | hx
        · exact lt_of_not_lt_of_ne hlt hne
        · exact he x hx

/-! ### Operations -/

/-- The map without entries. -/
def empty : NameMap α := ⟨[], .nil⟩

instance : EmptyCollection (NameMap α) := ⟨empty⟩

instance : Inhabited (NameMap α) := ⟨empty⟩

/-- The value of a key, if it has one. -/
def get? (m : NameMap α) (k : String) : Option α := m.entries.lookup k

/-- Whether a key has a value. -/
def contains (m : NameMap α) (k : String) : Bool := (m.get? k).isSome

/-- Gives a key a value, whatever it had before. -/
def insert (m : NameMap α) (k : String) (v : α) : NameMap α :=
  ⟨insertEntry k v m.entries, pairwise_insertEntry m.ascending⟩

/-- Gives a key a value unless it has one. -/
def insertIfNew (m : NameMap α) (k : String) (v : α) : NameMap α :=
  if m.contains k then m else m.insert k v

/-- Takes a key and its value away. -/
def erase (m : NameMap α) (k : String) : NameMap α :=
  ⟨m.entries.filter (fun e => e.1 != k), m.ascending.filter _⟩

/-- The map with the given entries; of two with one key the later counts. -/
def ofList (es : List (String × α)) : NameMap α := es.foldl (fun m e => m.insert e.1 e.2) ∅

/-- The entries, keys ascending. -/
def toList (m : NameMap α) : List (String × α) := m.entries

/-- The keys, ascending. -/
def keys (m : NameMap α) : List String := m.entries.map (·.1)

/-- The values, in the order of their keys. -/
def values (m : NameMap α) : List α := m.entries.map (·.2)

/-- Whether the map has no entry. -/
def isEmpty (m : NameMap α) : Bool := m.entries.isEmpty

/-- The same keys with other values. -/
def map (f : α → β) (m : NameMap α) : NameMap β :=
  ⟨m.entries.map (fun e => (e.1, f e.2)), by
    simpa only [List.pairwise_map] using m.ascending⟩

/-! ### What a key has afterwards -/

theorem lookup_insertEntry (k k' : String) (v : α) (es : List (String × α)) :
    (insertEntry k v es).lookup k' = if k' = k then some v else es.lookup k' := by
  induction es with
  | nil => grind [insertEntry]
  | cons e es ih => grind [insertEntry]

theorem lookup_filter_ne (k k' : String) (es : List (String × α)) :
    (es.filter (fun e => e.1 != k)).lookup k' = if k' = k then none else es.lookup k' := by
  induction es with
  | nil => grind
  | cons e es ih => grind

@[simp] theorem get?_empty (k : String) : (∅ : NameMap α).get? k = none := rfl

@[grind =] theorem get?_insert (m : NameMap α) (k k' : String) (v : α) :
    (m.insert k v).get? k' = if k' = k then some v else m.get? k' :=
  lookup_insertEntry k k' v m.entries

@[grind =] theorem get?_erase (m : NameMap α) (k k' : String) :
    (m.erase k).get? k' = if k' = k then none else m.get? k' :=
  lookup_filter_ne k k' m.entries

end NameMap

/-! ### Sets of names -/

/-- The names of a list in ascending order, each once. -/
def sortedNames (names : List String) : List String :=
  (NameMap.ofList (names.map (fun n => (n, ())))).keys

end LocalVolumes
