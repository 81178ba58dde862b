import LocalVolumes.Text.Digits
import LocalVolumes.Yaml.Cursor

/-!
# LocalVolumes.Yaml.Scalar.Quoted — scalars in single or double quotes

Between single quotes only the quote itself is written twice.  Between double quotes a backslash begins an
escape.  Line breaks are folded in both.
-/

namespace LocalVolumes.Yaml.Scalar.Quoted

/-- The number that the first digits of a text stand for in base sixteen. -/
def hexNumber? : Nat → List Char → Nat → Option Nat
  | 0, _, n => some n
  | _ + 1, [], _ => none
  | k + 1, c :: rest, n =>
    match Text.hexValue? c with
    | some d => hexNumber? k rest (16 * n + d)
    | none => none

/-- How many digits an escape of a code point has. -/
def escapeDigits? : Char → Option Nat
  | 'x' => some 2
  | 'u' => some 4
  | 'U' => some 8
  | _ => none

/-- The character of a one-letter escape. -/
def letterEscape? : Char → Option Char
  | '0' => some '\x00'
  | 'a' => some '\x07'
  | 'b' => some '\x08'
  | 't' => some '\t'
  | '\t' => some '\t'
  | 'n' => some '\n'
  | 'v' => some '\x0b'
  | 'f' => some '\x0c'
  | 'r' => some '\r'
  | 'e' => some '\x1b'
  | ' ' => some ' '
  | '"' => some '"'
  | '/' => some '/'
  | '\\' => some '\\'
  | 'N' => some '\u0085'
  | '_' => some '\u00a0'
  | 'L' => some '\u2028'
  | 'P' => some '\u2029'
  | _ => none

/-- The character of the escape whose letter the cursor is at, and the cursor after it. -/
def scanEscape (c : Cursor) : Option (Cursor × Char) :=
  match c.rest with
  | [] => none
  | x :: rest =>
    match escapeDigits? x with
    | some k =>
      match hexNumber? k rest 0 with
      | some n =>
        if (0xD800 ≤ n ∧ n ≤ 0xDFFF) ∨ 0x10FFFF < n then none
        else some (c.skipMany (k + 1), Char.ofNat n)
      | none => none
    | none => (letterEscape? x).map (fun e => (c.skip, e))

/-- Scans characters up to the closing quote or white space, put before those of `acc`.  The answer says
whether an escaped line break ended them. -/
def scanRun (single : Bool) : Nat → Cursor → List Char → Option (Cursor × List Char × Bool)
  | 0, _, _ => none
  | fuel + 1, c, acc =>
    if endsWord c.rest then some (c, acc, false)
    else
      match single, c.rest with
      | true, '\'' :: '\'' :: _ => scanRun single fuel (c.skipMany 2) ('\'' :: acc)
      | true, '\'' :: _ => some (c, acc, false)
      | false, '"' :: _ => some (c, acc, false)
      | false, '\\' :: rest =>
        if (rest.head?.map isBreak).getD false then some (c.skip.skipBreak, acc, true)
        else
          match scanEscape c.skip with
          | some (c, e) => scanRun single fuel c (e :: acc)
          | none => none
      | _, x :: _ => scanRun single fuel c.skip (x :: acc)
      | _, [] => none

/-- Scans the rest of a scalar, from after its opening quote to after its closing one. -/
def scanRuns (single : Bool) : Nat → Cursor → List Char → Option (Cursor × List Char)
  | 0, _, _ => none
  | fuel + 1, c, acc =>
    if c.atMark || c.rest = [] then none
    else
      match scanRun single (c.rest.length + 1) c acc with
      | none => none
      | some (c, acc, escaped) =>
        if c.rest.head? == some (if single then '\'' else '"') then some (c.skip, acc)
        else
          match scanGap 0 (c.rest.length + 1) c { broken := escaped } with
          | none => none
          | some (c, g) => scanRuns single fuel c (g.folded ++ acc)

/-- Scans a scalar at whose opening quote the cursor is. -/
def scan (single : Bool) (c : Cursor) : Option (Cursor × String) :=
  match scanRuns single (c.rest.length + 1) c.skip [] with
  | none => none
  | some (c, acc) => some (c, String.ofList acc.reverse)

end LocalVolumes.Yaml.Scalar.Quoted
