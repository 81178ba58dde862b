import LocalVolumes.Yaml.Cursor

/-!
# LocalVolumes.Yaml.Scalar.Plain — scalars without quotes

A plain scalar is a row of words.  It ends before a comment, before a colon that ends a word, in a flow
collection before one of its indicators, and where a line is indented too little.
-/

namespace LocalVolumes.Yaml.Scalar.Plain

/-- The indicators that end a plain scalar in a flow collection. -/
def isFlowIndicator (c : Char) : Bool := c == ',' || c == '[' || c == ']' || c == '\x7b' || c == '\x7d'

/-- Whether a scalar stops here inside a word. -/
def stopsAt (flow : Bool) : List Char → Bool
  | [] => true
  | ':' :: rest => endsWord rest
  | c :: _ => flow && isFlowIndicator c

/-- Whether a colon stands here that a flow collection does not admit. -/
def misplacedColon (flow : Bool) : List Char → Bool
  | ':' :: c :: _ => flow && (isFlowIndicator c || c == '?')
  | _ => false

/-- Scans a word, its characters put before those of `acc`. -/
def scanWord (flow : Bool) : Nat → Cursor → List Char → Option (Cursor × List Char)
  | 0, _, _ => none
  | fuel + 1, c, acc =>
    if endsWord c.rest then some (c, acc)
    else if misplacedColon flow c.rest then none
    else if stopsAt flow c.rest then some (c, acc)
    else
      match c.rest with
      | [] => some (c, acc)
      | x :: _ => scanWord flow fuel c.skip (x :: acc)

/-- Scans words and the white space between them; `acc` is the text before, last character first.  The answer
says whether white space with a line break follows. -/
def scanWords (flow : Bool) (indent : Nat) :
    Nat → Cursor → List Char → Gap → Option (Cursor × List Char × Bool)
  | 0, _, _, _ => none
  | fuel + 1, c, acc, g =>
    if c.atMark || c.rest.head? == some '#' then some (c, acc, g.broken)
    else
      match scanWord flow (c.rest.length + 1) c [] with
      | none => none
      | some (c, word) =>
        let (acc, g) := if word = [] then (acc, g) else (word ++ (g.folded ++ acc), {})
        if c.rest = [] || !endsWord c.rest then some (c, acc, g.broken)
        else
          match scanGap indent (c.rest.length + 1) c g with
          | none => none
          | some (c, g) =>
            if !flow && c.column < indent then some (c, acc, g.broken)
            else scanWords flow indent fuel c acc g

/-- Scans a plain scalar.  The answer says whether white space with a line break follows. -/
def scan (flow : Bool) (indent : Nat) (c : Cursor) : Option (Cursor × String × Bool) :=
  match scanWords flow indent (c.rest.length + 1) c [] {} with
  | none => none
  | some (c, acc, broken) => some (c, String.ofList acc.reverse, broken)

end LocalVolumes.Yaml.Scalar.Plain
