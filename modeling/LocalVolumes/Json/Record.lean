import LocalVolumes.Json.Draft

/-!
# LocalVolumes.Json.Record — the parts of objects, read from drafts

The objects of a cluster are read by the names of their fields.  There are two kinds of records.  A strict one
holds no field twice and may also be written as an array, in the order of its fields (`record?`).  A lenient one
is an object, and of several fields of one name the last counts, though all of them have to be readable
(`lenientRecord?`, `last?`).  In both, fields of other names may hold anything that is JSON by its form.
-/

namespace LocalVolumes.Json.Draft

/-! ### Values -/

/-- The text of a string. -/
def text? : Draft → Option String
  | .string s => some s
  | _ => none

/-- A truth value. -/
def bool? : Draft → Option Bool
  | .bool b => some b
  | _ => none

/-- A natural number below a limit. -/
def natBelow? (limit : Nat) : Draft → Option Nat
  | .integer n => if 0 ≤ n ∧ n < limit then some n.toNat else none
  | _ => none

/-- An integer of 64 bits. -/
def int64? : Draft → Option Int
  | .integer n => if Int64.minValue.toInt ≤ n ∧ n ≤ Int64.maxValue.toInt then some n else none
  | _ => none

/-- A word of a closed list: a text, or the only key of an object with null. -/
def word? : Draft → Option String
  | .string s => some s
  | .object [(some word, .null)] true => some word
  | _ => none

/-- The items of an array, each read. -/
def items? {α : Type} (read : Draft → Option α) : Draft → Option (List α)
  | .array items true => items.mapM read
  | _ => none

/-- The fields of an object. -/
def fields? : Draft → Option (List (String × Draft))
  | .object fields true => fields.mapM (fun f => f.1.map (·, f.2))
  | _ => none

/-- A map of texts; of two entries with one key the later counts. -/
def textMap? (d : Draft) : Option (NameMap String) := do
  let fields ← d.fields?
  return NameMap.ofList (← fields.mapM (fun f => f.2.text?.map (f.1, ·)))

/-- A value that may be absent or null, which both mean that there is none. -/
def optional? {α : Type} (read : Draft → Option α) : Option Draft → Option (Option α)
  | none => some none
  | some .null => some none
  | some d => (read d).map some

/-- A value that may be absent, with what counts then. -/
def withDefault? {α : Type} (default : α) (read : Draft → Option α) : Option Draft → Option α
  | none => some default
  | some d => read d

/-! ### Strict records -/

/-- Whether fields of other names are well formed, and no known name comes twice. -/
def areDistinct (names : List String) (fields : List (String × Draft)) : Bool :=
  fields.all (fun f => names.contains f.1 || f.2.isWhole) &&
    names.all (fun n => fields.countP (·.1 == n) ≤ 1)

/-- The fields of a strict record.  An array may leave out the last ones. -/
def record? (names : List String) : Draft → Option (List (String × Draft))
  | .array items true => if items.length ≤ names.length then some (names.zip items) else none
  | d => d.fields?.filter (areDistinct names)

/-- The fields of a strict record that an array holds without exception. -/
def wholeRecord? (names : List String) : Draft → Option (List (String × Draft))
  | .array items true => if items.length = names.length then some (names.zip items) else none
  | d => d.record? names

/-! ### Lenient records -/

/-- The fields of a lenient record. -/
def lenientRecord? (names : List String) (d : Draft) : Option (List (String × Draft)) :=
  d.fields?.filter (fun fields => fields.all (fun f => names.contains f.1 || f.2.isWhole))

/-- The value of the last field of a name; one that is null is as good as none. -/
def last? {α : Type} (fields : List (String × Draft)) (name : String) (read : Draft → Option α) :
    Option (Option α) := do
  let values ← (fields.filter (·.1 == name)).mapM (fun f => optional? read (some f.2))
  return values.getLast?.join

end LocalVolumes.Json.Draft
