import LocalVolumes.Text.Quoted

/-!
# LocalVolumes.Json.Basic — JSON values and their text

The values of the JSON data format.  A number that is an integer of 64 bits, signed or unsigned, is kept as
that integer; every other number keeps its spelling, because nothing here computes with it.  `Json.render`
is the compact text, and equality of values can be decided.
-/

namespace LocalVolumes

/-- A JSON value. -/
inductive Json
  | null
  | bool (b : Bool)
  | integer (n : Int)
  | real (spelling : String)
  | string (s : String)
  | array (items : List Json)
  | object (fields : List (String × Json))
  deriving Inhabited, Repr

namespace Json

/-! ### Equality -/

mutual
/-- Whether two values are the same. -/
def equals : Json → Json → Bool
  | .null, .null => true
  | .bool a, .bool b => a == b
  | .integer m, .integer n => m == n
  | .real a, .real b => a == b
  | .string a, .string b => a == b
  | .array vs, .array ws => equalItems vs ws
  | .object fs, .object gs => equalFields fs gs
  | _, _ => false

/-- Whether two lists of items are the same. -/
def equalItems : List Json → List Json → Bool
  | [], [] => true
  | v :: vs, w :: ws => equals v w && equalItems vs ws
  | _, _ => false

/-- Whether two lists of fields are the same. -/
def equalFields : List (String × Json) → List (String × Json) → Bool
  | [], [] => true
  | (k, v) :: fs, (l, w) :: gs => k == l && equals v w && equalFields fs gs
  | _, _ => false
end

mutual
theorem equals_iff : ∀ v w : Json, equals v w = true ↔ v = w
  | .null, w => by cases w <;> simp [equals]
  | .bool _, w => by cases w <;> simp [equals]
  | .integer _, w => by cases w <;> simp [equals]
  | .real _, w => by cases w <;> simp [equals]
  | .string _, w => by cases w <;> simp [equals]
  | .array vs, w => by cases w <;> simp [equals, equalItems_iff vs]
  | .object fs, w => by cases w <;> simp [equals, equalFields_iff fs]

theorem equalItems_iff : ∀ vs ws : List Json, equalItems vs ws = true ↔ vs = ws
  | [], ws => by cases ws <;> simp [equalItems]
  | v :: vs, ws => by cases ws <;> simp [equalItems, equals_iff v, equalItems_iff vs]

theorem equalFields_iff : ∀ fs gs : List (String × Json), equalFields fs gs = true ↔ fs = gs
  | [], gs => by cases gs <;> simp [equalFields]
  | (k, v) :: fs, gs => by
    cases gs <;> simp [equalFields, equals_iff v, equalFields_iff fs, Prod.ext_iff]
end

instance : DecidableEq Json := fun v w => decidable_of_iff _ (equals_iff v w)

/-! ### Text -/

/-- One character between the quotes. -/
def escapedChar (c : Char) : List Char :=
  if c = '"' then ['\\', '"']
  else if c = '\\' then ['\\', '\\']
  else if c = '\n' then ['\\', 'n']
  else if c = '\r' then ['\\', 'r']
  else if c = '\t' then ['\\', 't']
  else if c = '\x08' then ['\\', 'b']
  else if c = '\x0c' then ['\\', 'f']
  else if c.toNat < 0x20 then '\\' :: 'u' :: Text.paddedHex 4 c.toNat
  else [c]

/-- A text in quotes, the quote, the backslash and the controls escaped. -/
def renderString (s : String) : String :=
  String.ofList ('"' :: (s.toList.flatMap escapedChar ++ ['"']))

mutual
/-- The compact text of a value. -/
def render : Json → String
  | .null => "null"
  | .bool true => "true"
  | .bool false => "false"
  | .integer n => toString n
  | .real t => t
  | .string s => renderString s
  | .array items => "[" ++ renderItems items ++ "]"
  | .object fields => "\x7b" ++ renderFields fields ++ "\x7d"

/-- The items of an array, commas between them. -/
def renderItems : List Json → String
  | [] => ""
  | [v] => render v
  | v :: w :: rest => render v ++ "," ++ renderItems (w :: rest)

/-- The fields of an object, commas between them. -/
def renderFields : List (String × Json) → String
  | [] => ""
  | [(k, v)] => renderString k ++ ":" ++ render v
  | (k, v) :: f :: rest => renderString k ++ ":" ++ render v ++ "," ++ renderFields (f :: rest)
end

/-! ### Access -/

/-- The value of a field, null when there is none. -/
def field (v : Json) (key : String) : Json :=
  match v with
  | .object fields => (fields.lookup key).getD .null
  | _ => .null

/-- The value of a field, if there is one. -/
def field? (v : Json) (key : String) : Option Json :=
  match v with
  | .object fields => fields.lookup key
  | _ => none

/-- The text of a string value. -/
def text? : Json → Option String
  | .string s => some s
  | _ => none

/-! ### Making values -/

/-- An object of the fields that are present. -/
def objectOf (fields : List (String × Option Json)) : Json :=
  .object (fields.filterMap (fun f => f.2.map (f.1, ·)))

/-- An array of texts. -/
def strings (ss : List String) : Json := .array (ss.map .string)

/-- A text or null. -/
def stringOrNull : Option String → Json
  | some s => .string s
  | none => .null

/-- A natural number. -/
def nat (n : Nat) : Json := .integer n

end Json

end LocalVolumes
