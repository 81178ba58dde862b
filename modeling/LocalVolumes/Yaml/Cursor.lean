/-!
# LocalVolumes.Yaml.Cursor — characters of YAML and positions in a text

The classes of characters that the YAML format distinguishes, and a cursor: what is left of a text, with the
index, the line and the column that it begins at.
-/

namespace LocalVolumes.Yaml

/-! ### Classes of characters -/

/-- A space or a tabulator. -/
def isBlank (c : Char) : Bool := c == ' ' || c == '\t'

/-- A character that ends a line. -/
def isBreak (c : Char) : Bool :=
  c == '\n' || c == '\r' || c == '\u0085' || c == '\u2028' || c == '\u2029'

/-- A character of names: a letter or digit of ASCII, a dash or an underscore. -/
def isNameChar (c : Char) : Bool :=
  (c.toNat < 128 && c.isAlphanum) || c == '_' || c == '-'

/-- The characters that a text may hold. -/
def isAllowed (c : Char) : Bool :=
  let n := c.toNat
  n == 0x9 || n == 0xA || n == 0xD || (0x20 ≤ n && n ≤ 0x7E) || n == 0x85 ||
    (0xA0 ≤ n && n ≤ 0xD7FF) || (0xE000 ≤ n && n ≤ 0xFFFD) || 0x10000 ≤ n

/-- Whether a text is at its end or begins with a character that ends a line. -/
def endsLine : List Char → Bool
  | [] => true
  | c :: _ => isBreak c

/-- Whether a text is at its end or begins with white space. -/
def endsWord : List Char → Bool
  | [] => true
  | c :: _ => isBlank c || isBreak c

/-- Whether a text begins with a mark between documents, `---` or `...`. -/
def beginsMark : List Char → Bool
  | '-' :: '-' :: '-' :: rest => endsWord rest
  | '.' :: '.' :: '.' :: rest => endsWord rest
  | _ => false

/-- What a line break means inside a scalar: the separators of lines and paragraphs stay, every other break
is a line feed. -/
def breakText (c : Char) : Char := if c == '\u2028' || c == '\u2029' then c else '\n'

/-! ### Cursors -/

/-- The rest of a text and where it begins. -/
structure Cursor where
  rest : List Char
  index : Nat := 0
  line : Nat := 0
  column : Nat := 0
  deriving Repr

namespace Cursor

/-- Past one character of a line. -/
def skip (c : Cursor) : Cursor :=
  { c with rest := c.rest.tail, index := c.index + 1, column := c.column + 1 }

/-- Past some characters of a line. -/
def skipMany : Nat → Cursor → Cursor
  | 0, c => c
  | n + 1, c => skipMany n c.skip

/-- Past a line break; a carriage return and a line feed after it are one. -/
def skipBreak (c : Cursor) : Cursor :=
  match c.rest with
  | '\r' :: '\n' :: rest => { rest, index := c.index + 2, line := c.line + 1, column := 0 }
  | _ :: rest => { rest, index := c.index + 1, line := c.line + 1, column := 0 }
  | [] => c

/-- Past all characters of a kind. -/
def skipWhile (p : Char → Bool) (c : Cursor) : Cursor :=
  skipMany (c.rest.takeWhile p).length c

/-- Past the rest of the line, up to its break. -/
def skipLine (c : Cursor) : Cursor := c.skipWhile (fun x => !isBreak x)

/-- Whether the cursor is at a mark between documents, which stands at the start of a line. -/
def atMark (c : Cursor) : Bool := c.column == 0 && beginsMark c.rest

end Cursor

/-! ### White space inside a scalar -/

/-- White space after a part of a scalar, of which it is still open whether the scalar goes on: blanks of the
line, the first break, and the later breaks, all last first. -/
structure Gap where
  blanks : List Char := []
  first : List Char := []
  later : List Char := []
  /-- Whether a line has ended. -/
  broken : Bool := false
  deriving Repr

/-- What the white space means if the scalar goes on: blanks stand for themselves, a single line break for a
space, and further breaks for themselves. Last character first. -/
def Gap.folded (g : Gap) : List Char :=
  if g.broken then
    if g.first = ['\n'] then (if g.later = [] then [' '] else g.later) else g.later ++ g.first
  else g.blanks

/-- Scans white space. A tabulator that indents a line by less than `indent` is a fault. -/
def scanGap (indent : Nat) : Nat → Cursor → Gap → Option (Cursor × Gap)
  | 0, _, _ => none
  | fuel + 1, c, g =>
    match c.rest with
    | [] => some (c, g)
    | x :: _ =>
      if isBlank x then
        if g.broken then
          if x == '\t' && c.column < indent then none else scanGap indent fuel c.skip g
        else scanGap indent fuel c.skip { g with blanks := x :: g.blanks }
      else if isBreak x then
        if g.broken then
          scanGap indent fuel c.skipBreak { g with later := breakText x :: g.later }
        else
          scanGap indent fuel c.skipBreak
            { blanks := [], first := [breakText x], later := g.later, broken := true }
      else some (c, g)

end LocalVolumes.Yaml
