/-!
# LocalVolumes.Service.MediaType — the type of a request body

A media type is two tokens with a slash between them, and perhaps parameters.  A body is JSON if its type is
`application` and its subtype is `json` or ends with the suffix `json`.
-/

namespace LocalVolumes.Service

/-- A media type; the suffix is what comes after the last plus sign of the subtype. -/
structure MediaType where
  type : String
  subtype : String
  suffix : Option String
  deriving DecidableEq, Repr

namespace MediaType

/-- The characters of a token. -/
def isTokenChar (c : Char) : Bool :=
  (c.toNat < 128 && c.isAlphanum) || "!#$%&'*+-.^_\x60|~".toList.contains c

/-- The characters that a header may hold to be read as text. -/
def isHeaderChar (c : Char) : Bool := c == '\t' || (' ' ≤ c && c ≤ '~')

/-- Past the spaces after a quoted value, to the next parameter. -/
def afterQuoted? : List Char → Option (List Char)
  | [] => some []
  | ';' :: rest => some rest
  | ' ' :: rest => afterQuoted? rest
  | _ => none

/-- Past the value of a parameter.  A quoted value is not empty: a quote directly after the first one belongs to
it. -/
def afterValue? : List Char → Option (List Char)
  | '"' :: c :: rest =>
    match rest.dropWhile (fun c => c ≠ '"' && c ≠ '\t') with
    | '"' :: after => if c = '\t' then none else afterQuoted? after
    | _ => none
  | cs =>
    match cs.takeWhile isTokenChar, cs.dropWhile isTokenChar with
    | _, [] => some []
    | value, ';' :: rest => if value = [] then none else some rest
    | _, _ => none

/-- Whether a text is a row of parameters, `fuel` bounding their number. -/
def areParameters : Nat → List Char → Bool
  | 0, _ => false
  | _, [] => true
  | fuel + 1, ' ' :: rest => areParameters fuel rest
  | fuel + 1, cs =>
    match cs.takeWhile isTokenChar, cs.dropWhile isTokenChar with
    | name, '=' :: rest =>
      match afterValue? rest with
      | some rest => name ≠ [] && areParameters fuel rest
      | none => false
    | _, _ => false

/-- The part before the last plus sign, and the part after it. -/
def splitSuffix (subtype : List Char) : List Char × Option (List Char) :=
  match subtype.reverse.dropWhile (· ≠ '+') with
  | '+' :: before =>
    if before = [] then (subtype, none)
    else (before.reverse, some (subtype.reverse.takeWhile (· ≠ '+')).reverse)
  | _ => (subtype, none)

/-- Whether what follows a subtype is nothing, or a row of parameters. -/
def endsType : List Char → Bool
  | [] => true
  | ';' :: rest => areParameters (rest.length + 1) rest
  | _ => false

/-- The media type that a text stands for; letters of either case are the same. -/
def ofText? (s : String) : Option MediaType :=
  let cs := s.toList.map Char.toLower
  match cs.takeWhile isTokenChar, cs.dropWhile isTokenChar with
  | type, '/' :: rest =>
    let subtype := rest.takeWhile isTokenChar
    let after := rest.dropWhile isTokenChar
    if cs.all isHeaderChar && type ≠ [] && endsType after && (subtype ≠ [] || after = []) then
      let (stem, suffix) := splitSuffix subtype
      some ⟨String.ofList type, String.ofList stem, suffix.map String.ofList⟩
    else none
  | _, _ => none

/-- Whether a body of the type is JSON. -/
def isJson (m : MediaType) : Bool :=
  m.type == "application" && (m.subtype == "json" || m.suffix == some "json")

end MediaType

end LocalVolumes.Service
