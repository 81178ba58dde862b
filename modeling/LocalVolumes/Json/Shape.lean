import LocalVolumes.Json.Draft

/-!
# LocalVolumes.Json.Shape — drafts of an expected shape

Whoever knows which shape to expect reads a draft in the order of the text, so that of two faults the earlier
one is reported: whether the text is no JSON, or JSON of another shape.
-/

namespace LocalVolumes.Json.Draft

/-- What is wrong with a text of which a shape is expected. -/
inductive Fault
  /-- The text is no JSON. -/
  | malformed
  /-- The text is JSON up to here, of another shape. -/
  | mismatch
  deriving DecidableEq, Repr

/-- The fault of a draft that has not the shape in question. -/
def otherShape : Draft → Fault
  | .broken => .malformed
  | .excessive => .malformed
  | .unpaired => .malformed
  | _ => .mismatch

/-- A text. -/
def asString : Draft → Except Fault String
  | .string s => .ok s
  | d => .error d.otherShape

/-- A natural number of 64 bits. -/
def asNat64 : Draft → Except Fault Nat
  | .integer n => if 0 ≤ n then .ok n.toNat else .error .mismatch
  | d => .error d.otherShape

/-- A truth value. -/
def asBool : Draft → Except Fault Bool
  | .bool b => .ok b
  | d => .error d.otherShape

/-- A value or null. -/
def asOption {α : Type} (read : Draft → Except Fault α) : Draft → Except Fault (Option α)
  | .null => .ok none
  | d => (read d).map some

/-- The items of an array, each read. -/
def asList {α : Type} (read : Draft → Except Fault α) : Draft → Except Fault (List α)
  | .array items closed => do
    let vs ← items.mapM read
    if closed then .ok vs else .error .malformed
  | d => .error d.otherShape

/-- A map of texts; of two entries with one key the later counts. -/
def asStringMap : Draft → Except Fault (NameMap String)
  | .object fields closed => do
    let m ← fields.foldlM (fun m f =>
      match f with
      | (some k, d) => (asString d).map (m.insert k)
      | (none, _) => .error .malformed) (∅ : NameMap String)
    if closed then .ok m else .error .malformed
  | d => .error d.otherShape

/-- A field of a record: its name, whether it may be missing, and what is wrong with a value of it. -/
structure Member where
  name : String
  required : Bool
  check : Draft → Except Fault Unit

/-- Checks the fields of an object in their order.  `seen` are the known fields before, last first. -/
def checkFields (members : List Member) :
    List (Option String × Draft) → List (String × Draft) → Except Fault (List (String × Draft))
  | [], seen => .ok seen
  | (none, _) :: _, _ => .error .malformed
  | (some k, d) :: rest, seen =>
    match members.find? (·.name == k) with
    | none => if d.isWhole then checkFields members rest seen else .error .malformed
    | some m =>
      if (seen.lookup k).isSome then .error .mismatch
      else do
        m.check d
        checkFields members rest ((k, d) :: seen)

/-- Checks the fields of a record that is written as an array, in the order of the members. -/
def checkItems (closed : Bool) : List Member → List Draft → Except Fault (List (String × Draft))
  | [], items => if items.isEmpty && closed then .ok [] else .error .malformed
  | m :: ms, [] =>
    if !closed then .error .malformed
    else if m.required then .error .mismatch
    else checkItems closed ms []
  | m :: ms, d :: ds => do
    m.check d
    let rest ← checkItems closed ms ds
    .ok ((m.name, d) :: rest)

/-- The known fields of a record, written as an object or as an array in the order of the members.  Other
fields of an object may hold anything; a known one may not come twice. -/
def asRecord (members : List Member) : Draft → Except Fault (List (String × Draft))
  | .object fields closed => do
    let found ← checkFields members fields []
    if !closed then .error .malformed
    else if members.all (fun m => !m.required || (found.lookup m.name).isSome) then .ok found
    else .error .mismatch
  | .array items closed => checkItems closed members items
  | d => .error d.otherShape

/-- The value of a field that was found, read. -/
def found {α : Type} (fields : List (String × Draft)) (name : String) (default : α)
    (read : Draft → Except Fault α) : Except Fault α :=
  match fields.lookup name with
  | some d => read d
  | none => .ok default

end LocalVolumes.Json.Draft
