import LocalVolumes.Json.Basic
import LocalVolumes.Json.Numeral
import LocalVolumes.NameMap

/-!
# LocalVolumes.Json.Draft — reading JSON text, also text with faults in it

A draft is what a text shows of a JSON value up to its first fault of form: an array or an object that
breaks off is not closed, and a value that cannot be made out is broken.  Unlike a value, a draft keeps all fields
of an object in the order of the text, those of the same key too.  A draft without faults is a JSON value, and
every JSON value has a draft (`toJson?`, `ofJson`).
-/

namespace LocalVolumes.Json

/-- A value as far as the text shows it. -/
inductive Draft
  /-- The text is no value, or breaks off before one. -/
  | broken
  | null
  | bool (b : Bool)
  | integer (n : Int)
  | real (spelling : String)
  /-- A number beyond the range of finite doubles. -/
  | excessive
  | string (s : String)
  /-- A text with half of a surrogate pair in it. -/
  | unpaired
  | array (items : List Draft) (closed : Bool)
  /-- A key that is an unpaired text is absent. -/
  | object (fields : List (Option String × Draft)) (closed : Bool)
  deriving Inhabited

namespace Draft

/-! ### Scanning -/

/-- The white space between the parts of a value. -/
def isSpace (c : Char) : Bool := c == ' ' || c == '\n' || c == '\t' || c == '\r'

/-- The text after white space. -/
def skipSpace (cs : List Char) : List Char := cs.dropWhile isSpace

/-- The number that four digits in base sixteen stand for, and the text after them. -/
def fourHex? : List Char → Option (Nat × List Char)
  | a :: b :: c :: d :: rest => do
    let a ← Text.hexValue? a
    let b ← Text.hexValue? b
    let c ← Text.hexValue? c
    let d ← Text.hexValue? d
    some (((a * 16 + b) * 16 + c) * 16 + d, rest)
  | _ => none

/-- The character of a one-letter escape. -/
def letterEscape? : Char → Option Char
  | '"' => some '"'
  | '\\' => some '\\'
  | '/' => some '/'
  | 'b' => some '\x08'
  | 'f' => some '\x0c'
  | 'n' => some '\n'
  | 'r' => some '\r'
  | 't' => some '\t'
  | _ => none

/-- The rest of a text after its opening quote, up to the closing one.  `acc` holds the characters so far, last
first, or nothing once an unpaired surrogate was met.  The answer is absent for a fault of form. -/
def scanString : Nat → List Char → Option (List Char) → Option (Option String × List Char)
  | 0, _, _ => none
  | fuel + 1, cs, acc =>
    match cs with
    | [] => none
    | '"' :: rest => some (acc.map (fun cs => String.ofList cs.reverse), rest)
    | '\\' :: 'u' :: rest =>
      match fourHex? rest with
      | none => none
      | some (unit, rest) =>
        if 0xD800 ≤ unit ∧ unit < 0xDC00 then
          match rest with
          | '\\' :: 'u' :: low =>
            match fourHex? low with
            | none => none
            | some (second, low) =>
              if 0xDC00 ≤ second ∧ second < 0xE000 then
                let code := 0x10000 + (unit - 0xD800) * 0x400 + (second - 0xDC00)
                scanString fuel low (acc.map (Char.ofNat code :: ·))
              else scanString fuel rest none
          | _ => scanString fuel rest none
        else if 0xDC00 ≤ unit ∧ unit < 0xE000 then scanString fuel rest none
        else scanString fuel rest (acc.map (Char.ofNat unit :: ·))
    | '\\' :: c :: rest =>
      match letterEscape? c with
      | some e => scanString fuel rest (acc.map (e :: ·))
      | none => none
    | c :: rest =>
      if c = '\\' ∨ c.toNat < 0x20 then none else scanString fuel rest (acc.map (c :: ·))

/-- The draft of a number: an integer if it has neither point nor exponent and fits in 64 bits. -/
def ofNumeral (p : Numeral) : Draft :=
  match p.integer? with
  | some n => .integer n
  | none => if p.isExcessive then .excessive else .real p.spelling

mutual
/-- A value at the head of a text, and the text after it unless it broke off. -/
def scanValue : Nat → List Char → Draft × Option (List Char)
  | 0, _ => (.broken, none)
  | fuel + 1, cs =>
    match skipSpace cs with
    | 'n' :: 'u' :: 'l' :: 'l' :: rest => (.null, some rest)
    | 't' :: 'r' :: 'u' :: 'e' :: rest => (.bool true, some rest)
    | 'f' :: 'a' :: 'l' :: 's' :: 'e' :: rest => (.bool false, some rest)
    | '"' :: rest =>
      match scanString (fuel + 1) rest (some []) with
      | some (some s, rest) => (.string s, some rest)
      | some (none, rest) => (.unpaired, some rest)
      | none => (.broken, none)
    | '[' :: rest =>
      match skipSpace rest with
      | ']' :: rest => (.array [] true, some rest)
      | rest =>
        let (items, rest) := scanItems fuel rest
        (.array items rest.isSome, rest)
    | '\x7b' :: rest =>
      match skipSpace rest with
      | '\x7d' :: rest => (.object [] true, some rest)
      | rest =>
        let (fields, rest) := scanFields fuel rest
        (.object fields rest.isSome, rest)
    | rest =>
      match Numeral.scan rest with
      | some (p, rest) => (ofNumeral p, some rest)
      | none => (.broken, none)

/-- The items of an array up to its end, and the text after it unless it broke off. -/
def scanItems : Nat → List Char → List Draft × Option (List Char)
  | 0, _ => ([], none)
  | fuel + 1, cs =>
    match scanValue fuel cs with
    | (v, none) => ([v], none)
    | (v, some rest) =>
      match skipSpace rest with
      | ']' :: rest => ([v], some rest)
      | ',' :: rest =>
        match skipSpace rest with
        | ']' :: _ => ([v], none)
        | rest =>
          let (items, rest) := scanItems fuel rest
          (v :: items, rest)
      | _ => ([v], none)

/-- The fields of an object up to its end, and the text after it unless it broke off. -/
def scanFields : Nat → List Char → List (Option String × Draft) × Option (List Char)
  | 0, _ => ([], none)
  | fuel + 1, cs =>
    match skipSpace cs with
    | '"' :: rest =>
      match scanString (fuel + 1) rest (some []) with
      | none => ([], none)
      | some (key, rest) =>
        match skipSpace rest with
        | ':' :: rest =>
          match scanValue fuel rest with
          | (v, none) => ([(key, v)], none)
          | (v, some rest) =>
            match skipSpace rest with
            | '\x7d' :: rest => ([(key, v)], some rest)
            | ',' :: rest =>
              let (fields, rest) := scanFields fuel rest
              ((key, v) :: fields, rest)
            | _ => ([(key, v)], none)
        | _ => ([(key, .broken)], none)
    | _ => ([], none)
end

/-- The draft at the head of a text; what comes after it is not looked at. -/
def ofText (s : String) : Draft := (scanValue (s.length + 1) s.toList).1

/-! ### Drafts without faults -/

mutual
/-- Whether the draft is free of faults of form, all numbers and texts taken as they come. -/
def isWhole : Draft → Bool
  | .broken => false
  | .array items closed => areWhole items && closed
  | .object fields closed => fieldsAreWhole fields && closed
  | _ => true

/-- Whether all of the items are free of faults. -/
def areWhole : List Draft → Bool
  | [] => true
  | d :: ds => isWhole d && areWhole ds

/-- Whether all of the fields are free of faults. -/
def fieldsAreWhole : List (Option String × Draft) → Bool
  | [] => true
  | (_, d) :: ds => isWhole d && fieldsAreWhole ds
end

mutual
/-- The value that a draft without faults is.  An object has its keys in ascending order; of two fields with
one key the later counts. -/
def toJson? : Draft → Option Json
  | .null => some .null
  | .bool b => some (.bool b)
  | .integer n => some (.integer n)
  | .real t => some (.real t)
  | .string s => some (.string s)
  | .array items true => (itemsToJson? items).map .array
  | .object fields true => (fieldsToJson? fields []).map .object
  | _ => none

/-- The values of the items. -/
def itemsToJson? : List Draft → Option (List Json)
  | [] => some []
  | d :: ds => do
    let v ← toJson? d
    let vs ← itemsToJson? ds
    some (v :: vs)

/-- The values of the fields, put in their places among those before. -/
def fieldsToJson? : List (Option String × Draft) → List (String × Json) →
    Option (List (String × Json))
  | [], done => some done
  | (some k, d) :: ds, done => do
    let v ← toJson? d
    fieldsToJson? ds (NameMap.insertEntry k v done)
  | (none, _) :: _, _ => none
end

mutual
/-- The draft of a value. -/
def ofJson : Json → Draft
  | .null => .null
  | .bool b => .bool b
  | .integer n => .integer n
  | .real t => .real t
  | .string s => .string s
  | .array items => .array (ofItems items) true
  | .object fields => .object (ofFields fields) true

/-- The drafts of the items. -/
def ofItems : List Json → List Draft
  | [] => []
  | v :: vs => ofJson v :: ofItems vs

/-- The drafts of the fields. -/
def ofFields : List (String × Json) → List (Option String × Draft)
  | [] => []
  | (k, v) :: fs => (some k, ofJson v) :: ofFields fs
end

mutual
/-- How many arrays and objects stand inside each other. -/
def depth : Draft → Nat
  | .array items _ => itemsDepth items + 1
  | .object fields _ => fieldsDepth fields + 1
  | _ => 0

/-- The depth of the deepest item. -/
def itemsDepth : List Draft → Nat
  | [] => 0
  | d :: ds => max (depth d) (itemsDepth ds)

/-- The depth of the deepest field. -/
def fieldsDepth : List (Option String × Draft) → Nat
  | [] => 0
  | (_, d) :: ds => max (depth d) (fieldsDepth ds)
end

/-- The draft that a text is, white space around it apart. -/
def ofWholeText? (s : String) : Option Draft :=
  match scanValue (s.length + 1) s.toList with
  | (d, some rest) => if skipSpace rest = [] then some d else none
  | (_, none) => none

end Draft

/-- The value that a text is, white space around it apart. -/
def parse? (s : String) : Option Json := (Draft.ofWholeText? s).bind Draft.toJson?

end LocalVolumes.Json
