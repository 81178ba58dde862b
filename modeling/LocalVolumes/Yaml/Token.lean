import LocalVolumes.Yaml.Scalar.Block
import LocalVolumes.Yaml.Scalar.Plain
import LocalVolumes.Yaml.Scalar.Quoted
import LocalVolumes.Yaml.Tag

/-!
# LocalVolumes.Yaml.Token — the tokens of a text

Tokens are scalars, indicators, and the beginnings and ends of collections, those of block collections too,
which only the indentation shows.  That something is the key of a mapping is seen at the colon after it: the
tokens of the key and of a mapping that begins with it are then put in before it.
-/

namespace LocalVolumes.Yaml

/-- A token. -/
inductive Token
  | streamEnd
  | directive (d : Directive)
  | documentStart
  | documentEnd
  | blockSequenceStart
  | blockMappingStart
  | blockEnd
  | flowSequenceStart
  | flowSequenceEnd
  | flowMappingStart
  | flowMappingEnd
  | blockEntry
  | flowEntry
  | key
  | value
  | reference (anchor : String)
  | anchor (name : String)
  | tag (t : Tag)
  | scalar (text : String) (plain : Bool)
  deriving DecidableEq, Repr

/-- A place where a key may have begun. -/
structure KeyPlace where
  /-- Nothing else than a key can stand there. -/
  required : Bool
  /-- The number of tokens before it. -/
  number : Nat
  index : Nat
  line : Nat
  column : Nat
  deriving Repr

/-- What is known in the course of a text. -/
structure Lexing where
  cursor : Cursor
  /-- The tokens so far, last first. -/
  tokens : List Token := []
  /-- The column of the block collection that the cursor is in, `-1` outside. -/
  indent : Int := -1
  /-- The columns of the collections around it. -/
  outer : List Int := []
  /-- Whether a key may begin here. -/
  keyAllowed : Bool := true
  /-- For the block level and every open flow collection, innermost first, where a key may have begun. -/
  places : List (Option KeyPlace) := [none]

namespace Lexing

/-- Whether the cursor is in a flow collection. -/
def inFlow (s : Lexing) : Bool := 1 < s.places.length

/-- Adds a token. -/
def emit (t : Token) (s : Lexing) : Lexing := { s with tokens := t :: s.tokens }

/-- Puts a token in after the first `number` ones. -/
def emitAt (number : Nat) (t : Token) (s : Lexing) : Lexing :=
  let after := s.tokens.length - number
  { s with tokens := s.tokens.take after ++ t :: s.tokens.drop after }

/-! ### Indentation -/

/-- Begins a block collection at a column that is further in. -/
def roll (column : Nat) (put : Token → Lexing → Lexing) (t : Token) (s : Lexing) : Lexing :=
  if !s.inFlow && s.indent < column then
    put t { s with outer := s.indent :: s.outer, indent := column }
  else s

/-- Ends the block collections that are indented further than the column. -/
def unrollFrom (column : Int) : List Int → Lexing → Lexing
  | [], s => s
  | around :: outer, s =>
    if column < s.indent then
      unrollFrom column outer { s with tokens := .blockEnd :: s.tokens, indent := around, outer := outer }
    else s

/-- Ends the block collections that are indented further than the column, unless in a flow collection. -/
def unroll (column : Int) (s : Lexing) : Lexing :=
  if s.inFlow then s else unrollFrom column s.outer s

/-! ### Places of keys -/

/-- Gives up a place; one that requires a key is a fault. -/
def dropPlace (s : Lexing) : Option Lexing :=
  match s.places with
  | some p :: around => if p.required then none else some { s with places := none :: around }
  | _ => some s

/-- Notes that a key may begin here. -/
def savePlace (s : Lexing) : Option Lexing :=
  if s.keyAllowed then
    let c := s.cursor
    let place : KeyPlace :=
      { required := !s.inFlow && s.indent == c.column, number := s.tokens.length
        index := c.index, line := c.line, column := c.column }
    s.dropPlace.map (fun s => { s with places := some place :: s.places.tail })
  else some s

/-- Whether a place is too far behind: on an earlier line, or by more than 1024 characters. -/
def isStale (c : Cursor) (p : KeyPlace) : Bool := p.line < c.line || p.index + 1024 < c.index

/-- Gives up the places that are too far behind; one that requires a key is a fault. -/
def dropStale (s : Lexing) : Option Lexing :=
  let fault (p : Option KeyPlace) : Bool := match p with
    | some p => p.required && isStale s.cursor p
    | none => false
  if s.places.any fault then none
  else some { s with places := s.places.map (fun p => p.filter (fun p => !isStale s.cursor p)) }

/-! ### White space and comments -/

/-- Past blanks, comments and line breaks.  A tabulator counts as a blank where no key may begin, and a byte order
mark where a line begins. -/
def skipSpace : Nat → Lexing → Option Lexing
  | 0, _ => none
  | fuel + 1, s =>
    let c := s.cursor
    match c.rest with
    | '\ufeff' :: _ =>
      if c.column = 0 then skipSpace fuel { s with cursor := c.skip } else some s
    | '#' :: _ => skipSpace fuel { s with cursor := c.skipLine }
    | x :: _ =>
      if x == ' ' || (x == '\t' && (s.inFlow || !s.keyAllowed)) then
        skipSpace fuel { s with cursor := c.skip }
      else if isBreak x then
        skipSpace fuel { s with cursor := c.skipBreak, keyAllowed := s.keyAllowed || !s.inFlow }
      else some s
    | [] => some s

/-! ### Tokens -/

/-- A token of some characters. -/
def indicator (t : Token) (width : Nat) (keyAllowed : Bool) (s : Lexing) : Lexing :=
  { s with tokens := t :: s.tokens, cursor := s.cursor.skipMany width, keyAllowed }

/-- Ends all block collections before a token that stands outside of them. -/
def leave (s : Lexing) : Option Lexing :=
  (s.unroll (-1)).dropPlace.map (fun s => { s with keyAllowed := false })

/-- A token that begins or ends a collection or an entry at the block level. -/
def blockIndicator (collection t : Token) (keyAfter : Bool) (s : Lexing) : Option Lexing :=
  if s.inFlow then s.dropPlace.map (indicator t 1 keyAfter)
  else if s.keyAllowed then
    (s.roll s.cursor.column emit collection).dropPlace.map (indicator t 1 keyAfter)
  else none

/-- The colon after a key. -/
def valueIndicator (s : Lexing) : Option Lexing :=
  match s.places with
  | some p :: around =>
    let s := (s.emitAt p.number .key).roll p.column (emitAt p.number) .blockMappingStart
    some (indicator .value 1 false { s with places := none :: around })
  | _ =>
    if s.inFlow then some (indicator .value 1 false s)
    else if s.keyAllowed then
      some (indicator .value 1 true (s.roll s.cursor.column emit .blockMappingStart))
    else none

/-- A node that may be a key, and that a scan ends at a cursor. -/
def node (scan : Cursor → Option (Cursor × Token)) (s : Lexing) : Option Lexing := do
  let s ← s.savePlace
  let (cursor, t) ← scan s.cursor
  some { s with cursor, tokens := t :: s.tokens, keyAllowed := false }

/-- A plain scalar; after a line break a key may follow it. -/
def plain (s : Lexing) : Option Lexing := do
  let s ← s.savePlace
  let (cursor, text, broken) ← Scalar.Plain.scan s.inFlow (s.indent + 1).toNat s.cursor
  some { s with cursor, tokens := .scalar text true :: s.tokens, keyAllowed := broken }

/-- A block scalar. -/
def block (literal : Bool) (s : Lexing) : Option Lexing := do
  let s ← s.dropPlace
  let (cursor, text) ← Scalar.Block.scan literal s.indent s.cursor
  some { s with cursor, tokens := .scalar text false :: s.tokens, keyAllowed := true }

/-- Begins a flow collection. -/
def openFlow (t : Token) (s : Lexing) : Option Lexing :=
  s.savePlace.map (fun s => indicator t 1 true { s with places := none :: s.places })

/-- Ends a flow collection. -/
def closeFlow (t : Token) (s : Lexing) : Option Lexing :=
  s.dropPlace.map (fun s =>
    indicator t 1 false { s with places := if s.inFlow then s.places.tail else s.places })

/-- The end of the text. -/
def finish (s : Lexing) : Option Lexing := s.leave.map (emit .streamEnd)

/-- The characters that begin no plain scalar. -/
def isIndicator (c : Char) : Bool := "-?:,[]\x7b\x7d#&*!|>'\"%@\x60".toList.contains c

/-- Whether a plain scalar begins here. -/
def beginsPlain (flow : Bool) : List Char → Bool
  | [] => false
  | c :: rest =>
    if c == '-' then !(rest.head?.map isBlank).getD false
    else if c == '?' || c == ':' then !flow && !endsWord rest
    else !isBlank c && !isBreak c && !isIndicator c

/-- The next token of a text that is not at its end, white space before it already passed. -/
def next (s : Lexing) : Option Lexing :=
  let c := s.cursor
  if c.column = 0 ∧ c.rest.head? = some '%' then do
    let s ← s.leave
    let (cursor, d) ← Directive.scan c
    some { s with cursor, tokens := .directive d :: s.tokens }
  else if c.atMark then
    s.leave.map (indicator (if c.rest.head? = some '-' then .documentStart else .documentEnd) 3 false)
  else
    match c.rest with
    | [] => none
    | '[' :: _ => s.openFlow .flowSequenceStart
    | '\x7b' :: _ => s.openFlow .flowMappingStart
    | ']' :: _ => s.closeFlow .flowSequenceEnd
    | '\x7d' :: _ => s.closeFlow .flowMappingEnd
    | ',' :: _ => s.dropPlace.map (indicator .flowEntry 1 true)
    | x :: rest =>
      if x == '-' && endsWord rest then s.blockIndicator .blockSequenceStart .blockEntry true
      else if x == '?' && (s.inFlow || endsWord rest) then
        s.blockIndicator .blockMappingStart .key (!s.inFlow)
      else if x == ':' && (s.inFlow || endsWord rest) then s.valueIndicator
      else if x == '*' then s.node (fun c => (scanAnchor c).map (fun (c, n) => (c, .reference n)))
      else if x == '&' then s.node (fun c => (scanAnchor c).map (fun (c, n) => (c, .anchor n)))
      else if x == '!' then s.node (fun c => (Tag.scan s.inFlow c).map (fun (c, t) => (c, .tag t)))
      else if x == '|' && !s.inFlow then s.block true
      else if x == '>' && !s.inFlow then s.block false
      else if x == '\'' then
        s.node (fun c => (Scalar.Quoted.scan true c).map (fun (c, t) => (c, .scalar t false)))
      else if x == '"' then
        s.node (fun c => (Scalar.Quoted.scan false c).map (fun (c, t) => (c, .scalar t false)))
      else if beginsPlain s.inFlow (x :: rest) then s.plain
      else none

/-- All tokens from here on, in order. -/
def run : Nat → Lexing → Option (List Token)
  | 0, _ => none
  | fuel + 1, s =>
    match s.skipSpace (s.cursor.rest.length + 1) with
    | none => none
    | some s =>
      match s.dropStale with
      | none => none
      | some s =>
        if s.cursor.rest = [] then s.finish.map (fun s => s.tokens.reverse)
        else
          match (s.unroll s.cursor.column).next with
          | none => none
          | some s => run fuel s

end Lexing

/-- The tokens of a text, if it has any. -/
def Token.ofText? (s : String) : Option (List Token) :=
  let cs := s.toList
  if cs.all isAllowed then Lexing.run (cs.length + 2) { cursor := { rest := cs } } else none

end LocalVolumes.Yaml
