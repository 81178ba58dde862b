import LocalVolumes.Binary64
import LocalVolumes.Text.Blank
import LocalVolumes.Text.Quoted

/-!
# LocalVolumes.Quantity — sizes written with units

The sizes of volume groups and logical volumes travel as texts such as `10Gi`, `500M` or `1073741824`: a
numeral, then at most one of twelve units.  A whole numeral of 64 bits is multiplied exactly; any other
numeral is read as a double, multiplied, and rounded up.
-/

namespace LocalVolumes

/-- One more than the largest number of bytes that a size can have. -/
def sizeLimit : Nat := UInt64.size

/-- A size as it is written in an object. -/
structure Quantity where
  text : String
  deriving DecidableEq, Repr

namespace Quantity

/-- A unit: a power of 1024 or of 1000. -/
inductive Scale
  | binary (power : Nat)
  | decimal (power : Nat)
  deriving DecidableEq, Repr

/-- The number of bytes in a unit. -/
def Scale.bytes : Scale → Nat
  | .binary p => Nat.pow 1024 p
  | .decimal p => Nat.pow 1000 p

/-- The unit that a suffix stands for. -/
def Scale.ofSuffix? : String → Option Scale
  | "" => some (.binary 0)
  | "Ki" => some (.binary 1)
  | "Mi" => some (.binary 2)
  | "Gi" => some (.binary 3)
  | "Ti" => some (.binary 4)
  | "Pi" => some (.binary 5)
  | "Ei" => some (.binary 6)
  | "k" => some (.decimal 1)
  | "M" => some (.decimal 2)
  | "G" => some (.decimal 3)
  | "T" => some (.decimal 4)
  | "P" => some (.decimal 5)
  | "E" => some (.decimal 6)
  | _ => none

/-- Why a text is no size. -/
inductive Fault
  | empty
  | unknownUnit (size suffix : String)
  | overflow (size : String)
  | malformed (numeral : String)
  deriving DecidableEq, Repr

/-- The wording of a cause. -/
def Fault.message : Fault → String
  | .empty => "empty quantity string"
  | .unknownUnit size suffix => "unknown unit in " ++ Text.quoted size ++ ": " ++ suffix
  | .overflow size => "quantity overflows: " ++ size
  | .malformed numeral => "invalid number: " ++ Text.quoted numeral

/-! ### Numerals -/

/-- The characters of a numeral: digits and points. -/
def isNumeralChar (c : Char) : Bool := c.isDigit || c == '.'

/-- The value of a whole numeral that fits in 64 bits. -/
def wholeValue? (ds : List Char) : Option Nat :=
  if ds ≠ [] ∧ ds.all Char.isDigit ∧ Text.digitsValue ds < sizeLimit then some (Text.digitsValue ds) else none

/-- The finite double nearest to a numeral with at most one point and at least one digit. -/
def doubleValue? (ds : List Char) : Option Binary64 :=
  let whole := ds.takeWhile Char.isDigit
  let places := (ds.dropWhile Char.isDigit).drop 1
  if places.all Char.isDigit ∧ whole ++ places ≠ [] then
    let x := Binary64.ofQuotient (Text.digitsValue (whole ++ places)) (Nat.pow 10 places.length)
    if x.isInfinite then none else some x
  else none

/-! ### Reading a size -/

/-- The bytes of a numeral with a unit; `size` is the text that both come from. -/
def scaled (size : String) (numeral : List Char) (scale : Scale) : Except Fault Nat :=
  match wholeValue? numeral with
  | some n =>
    if n * scale.bytes < sizeLimit then .ok (n * scale.bytes) else .error (.overflow size)
  | none =>
    match doubleValue? numeral with
    | some x => .ok (min (x.scale scale.bytes).ceil (sizeLimit - 1))
    | none => .error (.malformed (String.ofList numeral))

/-- The number of bytes that a text stands for; white space around it does not count. -/
def parse (s : String) : Except Fault Nat :=
  let cs := Text.trimChars s.toList
  if cs = [] then .error .empty
  else
    let size := String.ofList cs
    let suffix := String.ofList (cs.dropWhile isNumeralChar)
    match Scale.ofSuffix? suffix with
    | some scale => scaled size (cs.takeWhile isNumeralChar) scale
    | none => .error (.unknownUnit size suffix)

/-- The number of bytes of a written size. -/
def bytes (q : Quantity) : Except Fault Nat := parse q.text

/-- The number of bytes of a size that may be absent; an absent one is zero. -/
def bytesOrZero : Option Quantity → Except Fault Nat
  | some q => q.bytes
  | none => .ok 0

end Quantity

end LocalVolumes
