import LocalVolumes.Text.Digits
import LocalVolumes.Yaml.Cursor

/-!
# LocalVolumes.Yaml.Tag — tags, anchors and directives

A tag names the kind of a node: verbatim between angle brackets, or as a handle and a suffix, where a
directive may say what the handle stands for.  A directive stands on a line of its own before a document.
-/

namespace LocalVolumes.Yaml

/-- A tag as it is written.  It is a row of bytes, each of which stands as the character of its number. -/
structure Tag where
  /-- Empty for a verbatim tag. -/
  handle : String
  suffix : String
  deriving DecidableEq, Repr

/-- A directive. -/
inductive Directive
  | version (major minor : Nat)
  | tag (handle stem : String)
  deriving DecidableEq, Repr

namespace Tag

/-- The tag of null. -/
def null : String := "tag:yaml.org,2002:null"

/-- What handles stand for where no directive says otherwise. -/
def standardHandles : List (String × String) := [("!", "!"), ("!!", "tag:yaml.org,2002:")]

/-- The full name of a tag. -/
def resolve? (handles : List (String × String)) (t : Tag) : Option String :=
  if t.handle = "" then some t.suffix else (handles.lookup t.handle).map (· ++ t.suffix)

/-! ### Scanning -/

/-- The byte of an escape of a percent sign and two digits. -/
def escapedByte? : List Char → Option Nat
  | '%' :: a :: b :: _ => do
    let a ← Text.hexValue? a
    let b ← Text.hexValue? b
    some (16 * a + b)
  | _ => none

/-- Scans the escapes of the bytes that continue a character; they are put before those of `acc`. -/
def scanContinuation : Nat → Cursor → List Char → Option (Cursor × List Char)
  | 0, c, acc => some (c, acc)
  | k + 1, c, acc =>
    match escapedByte? c.rest with
    | some b =>
      if b / 64 = 2 then scanContinuation k (c.skipMany 3) (Char.ofNat b :: acc) else none
    | none => none

/-- Scans the escapes of the bytes of one character, of which the first tells how many there are; they are put
before those of `acc`. -/
def scanEscape (c : Cursor) (acc : List Char) : Option (Cursor × List Char) := do
  let b ← escapedByte? c.rest
  let more ←
    if b < 0x80 then some 0
    else if b / 32 = 6 then some 1
    else if b / 16 = 14 then some 2
    else if b / 8 = 30 then some 3
    else none
  scanContinuation more (c.skipMany 3) (Char.ofNat b :: acc)

/-- The characters of the text of a tag. -/
def isUriChar (verbatim : Bool) (c : Char) : Bool :=
  isNameChar c || ";/?:@&=+$.%!~*'()".toList.contains c || (verbatim && ",[]".toList.contains c)

/-- Scans the text of a tag, byte by byte; `acc` holds the bytes so far, last first. -/
def scanUri (verbatim : Bool) : Nat → Cursor → List Char → Option (Cursor × List Char)
  | 0, _, _ => none
  | fuel + 1, c, acc =>
    match c.rest with
    | [] => some (c, acc)
    | x :: _ =>
      if isUriChar verbatim x then
        if x == '%' then
          match scanEscape c acc with
          | some (c, acc) => scanUri verbatim fuel c acc
          | none => none
        else scanUri verbatim fuel c.skip (x :: acc)
      else some (c, acc)

/-- The text of bytes that were scanned, last first.  A zero byte ends it. -/
def textOf (acc : List Char) : String := String.ofList (acc.reverse.takeWhile (· != '\x00'))

/-- Scans a handle: an exclamation mark, name characters, and perhaps another mark. -/
def scanHandle (c : Cursor) : Option (Cursor × String) :=
  match c.rest with
  | '!' :: rest =>
    let name := rest.takeWhile isNameChar
    let c := c.skipMany (name.length + 1)
    if c.rest.head? == some '!' then some (c.skip, String.ofList ('!' :: name ++ ['!']))
    else some (c, String.ofList ('!' :: name))
  | _ => none

/-- Whether a handle stands between two exclamation marks. -/
def isClosedHandle (handle : String) : Bool := 1 < handle.length && handle.toList.getLast? == some '!'

/-- Scans a tag at whose exclamation mark the cursor is. -/
def scan (flow : Bool) (c : Cursor) : Option (Cursor × Tag) := do
  let (c, tag) ←
    match c.rest with
    | '!' :: '<' :: rest =>
      match scanUri true (rest.length + 1) (c.skipMany 2) [] with
      | some (c, acc) =>
        if acc ≠ [] ∧ c.rest.head? = some '>' then
          some (c.skip, (⟨"", textOf acc⟩ : Tag))
        else none
      | none => none
    | _ =>
      match scanHandle c with
      | none => none
      | some (after, handle) =>
        match scanUri false (after.rest.length + 1) after [] with
        | none => none
        | some (c, acc) =>
          let suffix := textOf acc
          if isClosedHandle handle then
            if acc = [] then none else some (c, ⟨handle, suffix⟩)
          else
            let suffix := String.ofList (handle.toList.drop 1) ++ suffix
            if suffix = "" then some (c, ⟨"", "!"⟩) else some (c, ⟨"!", suffix⟩)
  if endsWord c.rest || (flow && c.rest.head? == some ',') then some (c, tag) else none

end Tag

/-! ### Anchors -/

/-- Scans the name of an anchor, at whose indicator the cursor is. -/
def scanAnchor (c : Cursor) : Option (Cursor × String) :=
  let name := c.rest.tail.takeWhile isNameChar
  let c := c.skipMany (name.length + 1)
  let ends : Bool := match c.rest with
    | [] => true
    | x :: _ => isBlank x || isBreak x || "?:,]\x7d%@\x60".toList.contains x
  if name ≠ [] && ends then some (c, String.ofList name) else none

/-! ### Directives -/

namespace Directive

/-- Scans a number of a version, of at most nine digits. -/
def scanNumber (c : Cursor) : Option (Cursor × Nat) :=
  let ds := c.rest.takeWhile Char.isDigit
  if ds = [] ∨ 9 < ds.length then none
  else some (c.skipMany ds.length, Text.digitsValue ds)

/-- Scans what a directive of the given name says. -/
def scanBody (name : String) (c : Cursor) : Option (Cursor × Directive) :=
  if name = "YAML" then do
    let (c, major) ← scanNumber (c.skipWhile isBlank)
    if c.rest.head? ≠ some '.' then none
    else
      let (c, minor) ← scanNumber c.skip
      some (c, .version major minor)
  else if name = "TAG" then do
    let (c, handle) ← Tag.scanHandle (c.skipWhile isBlank)
    if (handle ≠ "!" ∧ !Tag.isClosedHandle handle) ∨ !(c.rest.head?.map isBlank).getD false then none
    else
      let c := c.skipWhile isBlank
      let (c, acc) ← Tag.scanUri true (c.rest.length + 1) c []
      if acc = [] ∨ !endsWord c.rest then none
      else some (c, .tag handle (Tag.textOf acc))
  else none

/-- Scans a directive, at whose percent sign the cursor is, and the rest of its line. -/
def scan (c : Cursor) : Option (Cursor × Directive) := do
  let c := c.skip
  let name := c.rest.takeWhile isNameChar
  let c := c.skipMany name.length
  if name = [] ∨ !endsWord c.rest then none
  else
    let (c, directive) ← scanBody (String.ofList name) c
    let c := c.skipWhile isBlank
    let c := if c.rest.head? == some '#' then c.skipLine else c
    if endsLine c.rest then some (c.skipBreak, directive) else none

end Directive

end LocalVolumes.Yaml
