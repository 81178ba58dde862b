import LocalVolumes.Yaml.Cursor
import LocalVolumes.Yaml.Resemblance

/-!
# LocalVolumes.Yaml.Style — writing a text as a scalar

A text is written plain where it stays the same text, in single quotes where it would be taken for something
else, in double quotes where it holds characters that only escapes can show, and as a literal block where it
has lines.
-/

namespace LocalVolumes.Yaml

/-- The characters that may stand for themselves. -/
def isPrintable (c : Char) : Bool :=
  let n := c.toNat
  n == 0xA || (0x20 ≤ n && n ≤ 0x7E) || (0xA0 ≤ n && n ≠ 0xFEFF && n ≠ 0xFFFE && n ≠ 0xFFFF)

namespace Scalar

/-- How a scalar is written. -/
inductive Style
  | plain
  | single
  | double
  | literal
  deriving DecidableEq, Repr

/-! ### What a text admits -/

/-- Whether the first character would be taken for an indicator. -/
def beginsIndicator : List Char → Bool
  | [] => false
  | c :: rest =>
    "#,[]\x7b\x7d&*!|>'\"%@\x60".toList.contains c ||
      ((c == '?' || c == ':' || c == '-') && endsWord rest)

/-- Whether a later character would be taken for an indicator; `afterBlank` tells of the character before. -/
def holdsIndicator (afterBlank : Bool) : List Char → Bool
  | [] => false
  | c :: rest =>
    (c == ':' && endsWord rest) || (c == '#' && afterBlank) ||
      holdsIndicator (isBlank c || isBreak c) rest

/-- Whether a text begins like a mark between documents. -/
def resemblesMark : List Char → Bool
  | '-' :: '-' :: '-' :: _ => true
  | '.' :: '.' :: '.' :: _ => true
  | _ => false

/-- Whether some character with the one property stands directly before one with the other. -/
def hasPair (p q : Char → Bool) : List Char → Bool
  | c :: d :: rest => (p c && q d) || hasPair p q (d :: rest)
  | _ => false

/-- A space. -/
def isSpace (c : Char) : Bool := c == ' '

/-- Whether a text begins or ends with a space or a line break. -/
def hasLooseEnd (cs : List Char) : Bool :=
  let loose (c : Option Char) : Bool := (c.map (fun c => isSpace c || isBreak c)).getD false
  loose cs.head? || loose cs.getLast?

/-- Whether only double quotes can hold a text. -/
def needsEscapes (cs : List Char) : Bool := hasPair isSpace isBreak cs || !cs.all isPrintable

/-- Whether a text may stand plain. -/
def admitsPlain (cs : List Char) : Bool :=
  !hasLooseEnd cs && !needsEscapes cs && !cs.any isBreak && !resemblesMark cs &&
    !beginsIndicator cs && !holdsIndicator false (cs.drop 1)

/-- Whether a text may stand in single quotes. -/
def admitsSingle (cs : List Char) : Bool := !needsEscapes cs && !hasPair isBreak isSpace cs

/-- Whether a text may stand as a literal block. -/
def admitsLiteral (cs : List Char) : Bool :=
  !needsEscapes cs && !(cs.getLast?.map isSpace).getD false

/-- How a text is written. -/
def Style.ofText (s : String) : Style :=
  let cs := s.toList
  if cs.contains '\n' then (if admitsLiteral cs then .literal else .double)
  else if !Resemblance.isOtherValue s && admitsPlain cs then .plain
  else if admitsSingle cs then .single
  else .double

/-! ### Writing -/

/-- Spaces. -/
def spaces (n : Nat) : List Char := List.replicate n ' '

/-- Characters of a text, every one after a line break behind an indentation.  `broken` says whether a line
break stands before. -/
def indented (indent : Nat) (write : Char → List Char) (broken : Bool) : List Char → List Char
  | [] => []
  | c :: rest =>
    if isBreak c then c :: indented indent write true rest
    else (if broken then spaces indent else []) ++ write c ++ indented indent write false rest

/-- A quote is written twice. -/
def singleChar (c : Char) : List Char := if c = '\'' then ['\'', '\''] else [c]

/-- A text in single quotes. -/
def writeSingle (indent : Nat) (cs : List Char) : List Char :=
  let endIndent := if (cs.getLast?.map isBreak).getD false then spaces indent else []
  '\'' :: indented indent singleChar false cs ++ endIndent ++ ['\'']

/-- Digits in base sixteen, upper case, at least so many. -/
def upperHex (width n : Nat) : List Char := (Text.paddedHex width n).map Char.toUpper

/-- The letter of a character that has an escape of its own. -/
def escapeLetter? (c : Char) : Option Char :=
  [('\x00', '0'), ('\x07', 'a'), ('\x08', 'b'), ('\t', 't'), ('\n', 'n'), ('\x0b', 'v'), ('\x0c', 'f'),
    ('\r', 'r'), ('\x1b', 'e'), ('"', '"'), ('\\', '\\'), ('\u0085', 'N'), ('\u00a0', '_'),
    ('\u2028', 'L'), ('\u2029', 'P')].lookup c

/-- One character between double quotes. -/
def doubleChar (c : Char) : List Char :=
  if isPrintable c && !isBreak c && c != '"' && c != '\\' then [c]
  else
    match escapeLetter? c with
    | some l => ['\\', l]
    | none =>
      let n := c.toNat
      if n ≤ 0xFF then '\\' :: 'x' :: upperHex 2 n
      else if n ≤ 0xFFFF then '\\' :: 'u' :: upperHex 4 n
      else '\\' :: 'U' :: upperHex 8 n

/-- A text in double quotes. -/
def writeDouble (cs : List Char) : List Char := '"' :: cs.flatMap doubleChar ++ ['"']

/-- The header of a literal block: an indentation where the text begins with white space, and how its end is
kept. -/
def literalHeader (cs : List Char) : List Char :=
  let loose := (cs.head?.map (fun c => isSpace c || isBreak c)).getD false
  let chomping := match cs.reverse with
    | [] => ['-']
    | c :: before =>
      if !isBreak c then ['-']
      else if (before.head?.map isBreak).getD true then ['+']
      else []
  '|' :: (if loose then ['2'] else []) ++ chomping

/-- A text as a literal block. -/
def writeLiteral (indent : Nat) (cs : List Char) : List Char :=
  literalHeader cs ++ ['\n'] ++ indented indent (fun c => [c]) true cs

/-- A text as a scalar with the end of its line, inside a collection whose scalars are indented by `indent`. -/
def write (indent : Nat) (s : String) : List Char :=
  let cs := s.toList
  match Style.ofText s with
  | .plain => cs ++ ['\n']
  | .single => writeSingle indent cs ++ ['\n']
  | .double => writeDouble cs ++ ['\n']
  | .literal =>
    writeLiteral indent cs ++ (if (cs.getLast?.map isBreak).getD false then [] else ['\n'])

end Scalar

end LocalVolumes.Yaml
