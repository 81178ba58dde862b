import LocalVolumes.Yaml.Token

/-!
# LocalVolumes.Yaml.Node — the nodes of a document

A document is a tree of scalars, sequences and mappings.  A node may have an anchor, by which a reference
elsewhere in the document stands for it; the tree keeps the reference, and the document the nodes that
references stand for.
-/

namespace LocalVolumes.Yaml

/-- A node. -/
inductive Node
  /-- `plain` says that the scalar is not quoted and no block; a missing node is an empty plain scalar. -/
  | scalar (text : String) (plain : Bool) (tag : Option String)
  | sequence (items : List Node)
  | mapping (entries : List (Node × Node))
  /-- A reference to the node with the given mark. -/
  | reference (mark : Nat)
  deriving Inhabited

/-- A document: its node, if there is any, and the nodes that have anchors, by their marks. -/
structure Document where
  root : Option Node
  anchored : List (Nat × Node)

/-- The node of a place without one. -/
def Node.missing : Node := .scalar "" true none

mutual
/-- The number of parts of a node: a scalar and a reference are one, and a collection has a beginning and an end. -/
def Node.size : Node → Nat
  | .scalar .. => 1
  | .sequence items => itemsSize items + 2
  | .mapping entries => entriesSize entries + 2
  | .reference _ => 1

/-- The number of parts of the items. -/
def Node.itemsSize : List Node → Nat
  | [] => 0
  | n :: ns => n.size + itemsSize ns

/-- The number of parts of the entries. -/
def Node.entriesSize : List (Node × Node) → Nat
  | [] => 0
  | (k, v) :: es => k.size + v.size + entriesSize es
end

/-! ### Reading tokens -/

namespace Node

/-- What is known in the course of the tokens.

Every anchor gets a mark: the number of names known when it is met.  When a name comes a second time no new
name is known, and the next new name gets the mark once more; of two places with one mark the later counts. -/
structure Reading where
  rest : List Token
  handles : List (String × String) := Tag.standardHandles
  /-- The marks of the names. -/
  names : List (String × Nat) := []
  /-- The number of nodes with an anchor so far. -/
  count : Nat := 0
  /-- For every mark the number of its node. -/
  targets : List (Nat × Nat) := []
  /-- The nodes with an anchor by their numbers. -/
  nodes : List (Nat × Node) := []

namespace Reading

/-- Past a token. -/
def skip (r : Reading) : Reading := { r with rest := r.rest.tail }

/-- The next token. -/
def head (r : Reading) : Token := r.rest.head?.getD .streamEnd

/-- Gives an anchor its mark, and its node a number. -/
def define (name : String) (r : Reading) : Reading × Nat :=
  let known := r.names.filter (fun n => n.1 != name)
  ({ r with
      names := (name, r.names.length) :: known
      targets := (r.names.length, r.count) :: r.targets
      count := r.count + 1 }, r.count)

/-- Keeps the node of an anchor. -/
def keep (number : Option Nat) (n : Node) (r : Reading) : Reading :=
  match number with
  | some k => { r with nodes := (k, n) :: r.nodes }
  | none => r

end Reading

/-- What may stand before a node: an anchor and a tag, in either order. -/
structure Properties where
  anchor : Option String := none
  tag : Option String := none

/-- Reads the full name of a tag. -/
def readTag (t : Tag) (r : Reading) : Option (Option String) := (t.resolve? r.handles).map some

/-- Reads an anchor and a tag, in either order, each at most once. -/
def readProperties (r : Reading) : Option (Properties × Reading) :=
  match r.rest with
  | .anchor a :: .tag t :: rest => (readTag t r).map (fun tag => (⟨some a, tag⟩, { r with rest }))
  | .tag t :: .anchor a :: rest => (readTag t r).map (fun tag => (⟨some a, tag⟩, { r with rest }))
  | .anchor a :: rest => some (⟨some a, none⟩, { r with rest })
  | .tag t :: rest => (readTag t r).map (fun tag => (⟨none, tag⟩, { r with rest }))
  | _ => some ({}, r)

/-- Whether the tokens go on with one of the given ones. -/
def Reading.atAny (ts : List Token) (r : Reading) : Bool := ts.contains r.head

mutual
/-- A node; `block` admits block collections, and `indentless` a sequence that is not indented. -/
def readNode (block indentless : Bool) : Nat → Reading → Option (Node × Reading)
  | 0, _ => none
  | fuel + 1, r =>
    match r.head with
    | .reference name => (r.names.lookup name).map (fun mark => (.reference mark, r.skip))
    | _ => do
      let (properties, r) ← readProperties r
      let (r, number) := match properties.anchor with
        | some name => let (r, k) := r.define name; (r, some k)
        | none => (r, none)
      let (n, r) ← readContent block indentless properties fuel r
      some (n, r.keep number n)

/-- What comes after the anchor and the tag of a node. -/
def readContent (block indentless : Bool) (properties : Properties) :
    Nat → Reading → Option (Node × Reading)
  | 0, _ => none
  | fuel + 1, r =>
    match r.head with
    | .scalar text plain => some (.scalar text plain properties.tag, r.skip)
    | .blockEntry =>
      if indentless then
        (readBareItems fuel r).map (fun (items, r) => (.sequence items, r))
      else readNothing properties r
    | .flowSequenceStart => (readFlowItems true fuel r.skip).map (fun (ns, r) => (.sequence ns, r))
    | .flowMappingStart => (readFlowEntries true fuel r.skip).map (fun (es, r) => (.mapping es, r))
    | .blockSequenceStart =>
      if block then (readItems fuel r.skip).map (fun (ns, r) => (.sequence ns, r))
      else readNothing properties r
    | .blockMappingStart =>
      if block then (readEntries fuel r.skip).map (fun (es, r) => (.mapping es, r))
      else readNothing properties r
    | _ => readNothing properties r

/-- No content: a node only if it has an anchor or a tag. -/
def readNothing (properties : Properties) (r : Reading) : Option (Node × Reading) :=
  if properties.anchor.isSome || properties.tag.isSome then
    some (.scalar "" true properties.tag, r)
  else none

/-- A node of a block collection, or nothing before one of the given tokens. -/
def readOptional (indentless : Bool) (stops : List Token) :
    Nat → Reading → Option (Node × Reading)
  | 0, _ => none
  | fuel + 1, r =>
    if r.atAny stops then some (.missing, r) else readNode true indentless fuel r

/-- The items of an indented block sequence. -/
def readItems : Nat → Reading → Option (List Node × Reading)
  | 0, _ => none
  | fuel + 1, r =>
    match r.head with
    | .blockEntry => do
      let (n, r) ← readOptional false [.blockEntry, .blockEnd] fuel r.skip
      let (ns, r) ← readItems fuel r
      some (n :: ns, r)
    | .blockEnd => some ([], r.skip)
    | _ => none

/-- The items of a block sequence that is not indented. -/
def readBareItems : Nat → Reading → Option (List Node × Reading)
  | 0, _ => none
  | fuel + 1, r =>
    match r.head with
    | .blockEntry => do
      let (n, r) ← readOptional false [.blockEntry, .key, .value, .blockEnd] fuel r.skip
      let (ns, r) ← readBareItems fuel r
      some (n :: ns, r)
    | _ => some ([], r)

/-- The entries of a block mapping. -/
def readEntries : Nat → Reading → Option (List (Node × Node) × Reading)
  | 0, _ => none
  | fuel + 1, r =>
    match r.head with
    | .key => do
      let (k, r) ← readOptional true [.key, .value, .blockEnd] fuel r.skip
      let (v, r) ← readValue fuel r
      let (es, r) ← readEntries fuel r
      some ((k, v) :: es, r)
    | .blockEnd => some ([], r.skip)
    | _ => none

/-- The value of a key in a block mapping. -/
def readValue : Nat → Reading → Option (Node × Reading)
  | 0, _ => none
  | fuel + 1, r =>
    match r.head with
    | .value => readOptional true [.key, .value, .blockEnd] fuel r.skip
    | _ => some (.missing, r)

/-- A node of a flow collection, or nothing before one of the given tokens. -/
def readFlowOptional (stops : List Token) : Nat → Reading → Option (Node × Reading)
  | 0, _ => none
  | fuel + 1, r =>
    if r.atAny stops then some (.missing, r) else readNode false false fuel r

/-- The items of a flow sequence. -/
def readFlowItems (first : Bool) : Nat → Reading → Option (List Node × Reading)
  | 0, _ => none
  | fuel + 1, r =>
    match r.head with
    | .flowSequenceEnd => some ([], r.skip)
    | t =>
      if !first && t != .flowEntry then none
      else
        let r := if first then r else r.skip
        match r.head with
        | .flowSequenceEnd => some ([], r.skip)
        | .key => do
          let (entry, r) ← readPair fuel r.skip
          let (ns, r) ← readFlowItems false fuel r
          some (.mapping [entry] :: ns, r)
        | _ => do
          let (n, r) ← readNode false false fuel r
          let (ns, r) ← readFlowItems false fuel r
          some (n :: ns, r)

/-- A pair of key and value as an item of a flow sequence.  Where the key is missing, the token after it is
passed over. -/
def readPair : Nat → Reading → Option ((Node × Node) × Reading)
  | 0, _ => none
  | fuel + 1, r => do
    let (k, r) ←
      if r.atAny [.value, .flowEntry, .flowSequenceEnd] then some (.missing, r.skip)
      else readNode false false fuel r
    match r.head with
    | .value => do
      let (v, r) ← readFlowOptional [.flowEntry, .flowSequenceEnd] fuel r.skip
      some ((k, v), r)
    | _ => some ((k, .missing), r)

/-- The entries of a flow mapping. -/
def readFlowEntries (first : Bool) : Nat → Reading → Option (List (Node × Node) × Reading)
  | 0, _ => none
  | fuel + 1, r =>
    match r.head with
    | .flowMappingEnd => some ([], r.skip)
    | t =>
      if !first && t != .flowEntry then none
      else
        let r := if first then r else r.skip
        match r.head with
        | .flowMappingEnd => some ([], r.skip)
        | .key => do
          let (k, r) ← readFlowOptional [.value, .flowEntry, .flowMappingEnd] fuel r.skip
          let (v, r) ← readFlowValue fuel r
          let (es, r) ← readFlowEntries false fuel r
          some ((k, v) :: es, r)
        | _ => do
          let (k, r) ← readNode false false fuel r
          let (es, r) ← readFlowEntries false fuel r
          some ((k, .missing) :: es, r)

/-- The value of a key in a flow mapping. -/
def readFlowValue : Nat → Reading → Option (Node × Reading)
  | 0, _ => none
  | fuel + 1, r =>
    match r.head with
    | .value => readFlowOptional [.flowEntry, .flowMappingEnd] fuel r.skip
    | _ => some (.missing, r)
end

end Node

/-! ### Documents -/

namespace Document

/-- Reads the directives before a document: at most one version, of the two known ones, and no handle twice. -/
def readDirectives : List Token → Option Directive → List (String × String) →
    Option (List (String × String) × List Token)
  | .directive (.version major minor) :: rest, none, given =>
    if major = 1 ∧ (minor = 1 ∨ minor = 2) then
      readDirectives rest (some (.version major minor)) given
    else none
  | .directive (.version _ _) :: _, some _, _ => none
  | .directive (.tag handle stem) :: rest, version, given =>
    if (given.lookup handle).isSome then none
    else readDirectives rest version ((handle, stem) :: given)
  | rest, _, given => some (given, rest)

/-- Whether a document has no content before this token. -/
def isOutside : Token → Bool
  | .streamEnd => true
  | .directive _ => true
  | .documentStart => true
  | .documentEnd => true
  | _ => false

/-- Reads the node of a document, after which nothing but ends of documents may come. -/
def readRoot (empty : Bool) (handles : List (String × String)) (tokens : List Token) :
    Option Document := do
  let r : Node.Reading := { rest := tokens, handles := handles ++ Tag.standardHandles }
  let (root, r) ←
    if empty && isOutside r.head then some (.missing, r)
    else Node.readNode true false (4 * tokens.length + 8) r
  let number (mark : Nat) : Option Node := (r.targets.lookup mark).bind (fun k => r.nodes.lookup k)
  if r.rest.dropWhile (· == .documentEnd) = [.streamEnd] then
    some ⟨some root, (r.targets.map (·.1)).filterMap (fun m => (number m).map (m, ·))⟩
  else none

/-- The document of a text that holds at most one. -/
def ofTokens? (tokens : List Token) : Option Document :=
  match tokens with
  | [.streamEnd] => some ⟨none, []⟩
  | .directive _ :: _ | .documentStart :: _ => do
    let (handles, rest) ← readDirectives tokens none []
    match rest with
    | .documentStart :: rest => readRoot true handles rest
    | _ => none
  | _ => readRoot false [] tokens

/-- The document of a text. -/
def ofText? (s : String) : Option Document := (Token.ofText? s).bind ofTokens?

end Document

end LocalVolumes.Yaml
