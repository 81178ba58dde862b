import LocalVolumes.Json.Numeral

/-!
# LocalVolumes.Yaml.Resemblance — texts that look like another value

A plain scalar may be taken for null, a truth value or a number.  A text that resembles one of them is
written in quotes, so that it stays a text.
-/

namespace LocalVolumes.Yaml.Resemblance

/-- A text taken for null. -/
def isNull (s : String) : Bool := ["", "null", "Null", "NULL", "~"].contains s

/-- A text taken for a truth value. -/
def isBool (s : String) : Bool := ["true", "True", "TRUE", "false", "False", "FALSE"].contains s

/-- The text after a plus sign, if it begins with one. -/
def dropPlus : List Char → List Char
  | '+' :: rest => rest
  | cs => cs

/-- The text after a sign, if it begins with one. -/
def dropSign : List Char → List Char
  | '+' :: rest => rest
  | '-' :: rest => rest
  | cs => cs

/-- Whether digits follow a zero: such a row of digits is not a number. -/
def isZeroLed (cs : List Char) : Bool :=
  match dropSign cs with
  | '0' :: rest => rest ≠ [] && rest.all Char.isDigit
  | _ => false

/-- The value of a digit in a base. -/
def digitIn? (base : Nat) (c : Char) : Option Nat :=
  (Text.hexValue? c).filter (· < base)

/-- The value of a row of at least one digit. -/
def valueIn? (base : Nat) (cs : List Char) : Option Nat :=
  if cs = [] then none
  else cs.foldl (fun n c => n.bind (fun n => (digitIn? base c).map (base * n + ·))) (some 0)

/-- The base and the digits of a text that begins with the mark of a base. -/
def based? : List Char → Option (Nat × List Char)
  | '0' :: 'x' :: rest => some (16, rest)
  | '0' :: 'o' :: rest => some (8, rest)
  | '0' :: 'b' :: rest => some (2, rest)
  | _ => none

/-- Whether a text is a number in one of the marked bases, of at most 128 bits. -/
def isBased (cs : List Char) : Bool :=
  let within (limit : Nat) (cs : List Char) : Bool := match based? cs with
    | some (base, ds) => ((valueIn? base ds).filter (· < limit)).isSome
    | none => false
  match cs with
  | '-' :: rest => within ((1 <<< 127) + 1) rest
  | cs => within (1 <<< 128) (dropPlus cs)

/-- Whether a text is infinity or no number at all, in its notation with a point. -/
def isSpecial (s : String) : Bool :=
  [".inf", ".Inf", ".INF", "+.inf", "+.Inf", "+.INF", "-.inf", "-.Inf", "-.INF",
    ".nan", ".NaN", ".NAN"].contains s

/-- Whether a text without its sign is a finite decimal number: digits before or after a point or both, and
perhaps an exponent. -/
def isDecimal (cs : List Char) : Bool :=
  let whole := cs.takeWhile Char.isDigit
  let (places, rest) := match cs.dropWhile Char.isDigit with
    | '.' :: rest => (rest.takeWhile Char.isDigit, rest.dropWhile Char.isDigit)
    | rest => ([], rest)
  if whole ++ places = [] then false
  else
    match Json.Numeral.scanExponent rest with
    | some (exponent, []) =>
      !(Json.Numeral.isBeyondDoubles ⟨false, whole, some places, exponent⟩)
    | _ => false

/-- A text taken for a number. -/
def isNumber (s : String) : Bool :=
  let cs := s.toList
  isBased cs || isSpecial s ||
    (!isZeroLed cs && isDecimal (match cs with | '+' :: rest => rest | cs => dropSign cs))

/-- A text that resembles another value, or digits that a careless reader takes for a number. -/
def isOtherValue (s : String) : Bool := isNull s || isBool s || isNumber s || isZeroLed s.toList

end LocalVolumes.Yaml.Resemblance
