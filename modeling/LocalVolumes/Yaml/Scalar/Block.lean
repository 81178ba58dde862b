import LocalVolumes.Yaml.Cursor

/-!
# LocalVolumes.Yaml.Scalar.Block — scalars that are indented blocks of lines

A block scalar begins with its header: the indicator of its style, how its end is kept, and how far it is
indented.  A literal block keeps its line breaks, a folded one joins lines that begin without white space.
-/

namespace LocalVolumes.Yaml.Scalar.Block

/-- What becomes of the line breaks at the end. -/
inductive Chomping
  | strip
  | clip
  | keep
  deriving DecidableEq, Repr

/-- The header: how the end is kept, and the indentation if it is given. -/
structure Header where
  chomping : Chomping := .clip
  indent : Option Nat := none

/-- Scans an indicator of how the end is kept. -/
def scanChomping (c : Cursor) : Option (Cursor × Chomping) :=
  match c.rest with
  | '+' :: _ => some (c.skip, .keep)
  | '-' :: _ => some (c.skip, .strip)
  | _ => none

/-- Scans a digit that gives the indentation; zero is a fault. -/
def scanDigit (c : Cursor) : Option (Cursor × Option Nat) :=
  match c.rest with
  | x :: _ =>
    if x == '0' then none
    else if x.isDigit then some (c.skip, some (x.toNat - '0'.toNat))
    else some (c, none)
  | [] => some (c, none)

/-- Scans the two indicators in either order, and the rest of their line. -/
def scanHeader (c : Cursor) : Option (Cursor × Header) := do
  let (c, header) ← match scanChomping c with
    | some (c, chomping) => (scanDigit c).map (fun (c, indent) => (c, (⟨chomping, indent⟩ : Header)))
    | none => (scanDigit c).map (fun (c, indent) =>
        match indent, scanChomping c with
        | some _, some (c, chomping) => (c, ⟨chomping, indent⟩)
        | _, _ => (c, ⟨.clip, indent⟩))
  let c := c.skipWhile isBlank
  let c := if c.rest.head? == some '#' then c.skipLine else c
  if endsLine c.rest then some (c.skipBreak, header) else none

/-- Scans empty lines and the indentation of the next line; `indent` is none as long as it is not known.  The
answer holds the breaks, last first, and the widest indentation. -/
def scanBreaks (indent : Option Nat) :
    Nat → Cursor → List Char → Nat → Option (Cursor × List Char × Nat)
  | 0, _, _, _ => none
  | fuel + 1, c, breaks, widest =>
    let inside (column : Nat) : Bool := match indent with
      | some n => column < n
      | none => true
    match c.rest with
    | ' ' :: _ =>
      if inside c.column then scanBreaks indent fuel c.skip breaks widest
      else some (c, breaks, max widest c.column)
    | '\t' :: _ => if inside c.column then none else some (c, breaks, max widest c.column)
    | x :: _ =>
      if isBreak x then
        scanBreaks indent fuel c.skipBreak (breakText x :: breaks) (max widest c.column)
      else some (c, breaks, max widest c.column)
    | [] => some (c, breaks, max widest c.column)

/-- The break that a line ends with, if any. -/
def lineBreak : List Char → List Char
  | x :: _ => if isBreak x then [breakText x] else []
  | [] => []

/-- Scans the lines.  `acc` is the text so far, `first` the break of the last line and `later` the empty lines
after it, all last character first; `blank` says whether the last line began with white space. -/
def scanLines (literal : Bool) (indent : Nat) : Nat → Cursor → (acc first later : List Char) →
    (blank : Bool) → Option (Cursor × List Char × List Char × List Char)
  | 0, _, _, _, _, _ => none
  | fuel + 1, c, acc, first, later, blank =>
    if c.column = indent ∧ c.rest ≠ [] then
      let blankNow := (c.rest.head?.map Yaml.isBlank).getD false
      let joined :=
        if !literal && first = ['\n'] && !blank && !blankNow then
          if later = [] then [' '] else []
        else first
      let line := c.rest.takeWhile (fun x => !isBreak x)
      let c := c.skipLine
      let first := lineBreak c.rest
      match scanBreaks (some indent) (c.rest.length + 1) c.skipBreak [] 0 with
      | none => none
      | some (c, breaks, _) =>
        scanLines literal indent fuel c (line.reverse ++ (later ++ (joined ++ acc))) first breaks blankNow
    else some (c, acc, first, later)

/-- Scans a scalar at whose indicator the cursor is, inside a collection that is indented by `parent`, which is
negative when there is none. -/
def scan (literal : Bool) (parent : Int) (c : Cursor) : Option (Cursor × String) := do
  let (c, header) ← scanHeader c.skip
  let given := header.indent.map (fun n => if 0 ≤ parent then parent.toNat + n else n)
  let (c, breaks, widest) ← scanBreaks given (c.rest.length + 1) c [] 0
  let indent := given.getD (max widest (max (parent + 1).toNat 1))
  let (c, acc, first, later) ← scanLines literal indent (c.rest.length + 1) c [] [] breaks false
  let tail := match header.chomping with
    | .strip => []
    | .clip => first
    | .keep => later ++ first
  some (c, String.ofList (tail ++ acc).reverse)

end LocalVolumes.Yaml.Scalar.Block
