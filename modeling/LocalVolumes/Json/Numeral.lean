import LocalVolumes.Binary64
import LocalVolumes.Text.Digits

/-!
# LocalVolumes.Json.Numeral — numbers as they are written

A numeral is a sign, whole digits, digits after a point and an exponent.  Most numbers are only passed on, so a
numeral is not evaluated; but which numerals are too large for a double has to be known, and there are two
answers: the exact one, and the one of a reader that keeps the leading digits in 64 bits and multiplies doubles.
-/

namespace LocalVolumes.Json

/-- A number as it is written: whole digits, the digits after the point and the exponent, if it has them. -/
structure Numeral where
  negative : Bool
  whole : List Char
  places : Option (List Char)
  exponent : Option (Bool × List Char)

namespace Numeral

/-! ### Scanning -/

/-- Scans the digits after a point, of which there is at least one. -/
def scanPlaces : List Char → Option (Option (List Char) × List Char)
  | '.' :: rest =>
    let ds := rest.takeWhile Char.isDigit
    if ds = [] then none else some (some ds, rest.dropWhile Char.isDigit)
  | cs => some (none, cs)

/-- Scans an exponent: a letter, a sign or none, at least one digit. -/
def scanExponent : List Char → Option (Option (Bool × List Char) × List Char)
  | c :: rest =>
    if c = 'e' ∨ c = 'E' then
      let (negative, rest) := match rest with
        | '-' :: rest => (true, rest)
        | '+' :: rest => (false, rest)
        | rest => (false, rest)
      let ds := rest.takeWhile Char.isDigit
      if ds = [] then none else some (some (negative, ds), rest.dropWhile Char.isDigit)
    else some (none, c :: rest)
  | [] => some (none, [])

/-- Scans a number; one of several digits does not begin with zero. -/
def scan (cs : List Char) : Option (Numeral × List Char) := do
  let (negative, cs) := match cs with
    | '-' :: rest => (true, rest)
    | cs => (false, cs)
  let whole := cs.takeWhile Char.isDigit
  if whole = [] ∨ (whole.head? = some '0' ∧ 1 < whole.length) then none
  else
    let (places, cs) ← scanPlaces (cs.dropWhile Char.isDigit)
    let (exponent, cs) ← scanExponent cs
    some (⟨negative, whole, places, exponent⟩, cs)

/-! ### Values -/

/-- The power of ten that the exponent stands for. -/
def power (p : Numeral) : Int :=
  match p.exponent with
  | none => 0
  | some (true, ds) => -(Text.digitsValue ds : Int)
  | some (false, ds) => Text.digitsValue ds

/-- The integer that a numeral stands for, if it has neither point nor exponent and fits in 64 bits; minus zero
is none. -/
def integer? (p : Numeral) : Option Int :=
  let n := Text.digitsValue p.whole
  if p.places.isSome || p.exponent.isSome then none
  else if p.negative then (if 0 < n ∧ n ≤ 1 <<< 63 then some (-n) else none)
  else if n < UInt64.size then some n
  else none

/-- Whether the number lies beyond the finite doubles. -/
def isBeyondDoubles (p : Numeral) : Bool :=
  let places := p.places.getD []
  let digits := (p.whole ++ places).dropWhile (· == '0')
  let shift := p.power - places.length
  let size : Int := digits.length + shift
  if digits = [] ∨ size < 309 then false
  else if 309 < size then true
  else
    -- the first double beyond, less half of the spacing below it
    let limit := (1 <<< 1024) - (1 <<< 970)
    if 0 ≤ shift then limit ≤ Text.digitsValue digits * Nat.pow 10 shift.toNat
    else limit * Nat.pow 10 (-shift).toNat ≤ Text.digitsValue digits

/-- Appends digits to a number as long as it fits in 64 bits, and tells how many are left. -/
def appendDigits : Nat → List Char → Nat × Nat
  | n, [] => (n, 0)
  | n, d :: ds =>
    let m := Text.digitsValue [d] + 10 * n
    if m < UInt64.size then appendDigits m ds else (n, ds.length + 1)

/-- The leading digits as a number of 64 bits, and the power of ten that goes with it.  Digits of either side of
the point are left out from the first one on that does not fit. -/
def leading (p : Numeral) : Nat × Int :=
  let places := p.places.getD []
  let (n, before) := appendDigits 0 p.whole
  let (n, after) := appendDigits n places
  (n, p.power + before - (places.length - after : Nat))

/-- Whether the number overflows when it is computed in doubles, as the leading digits times a power of ten. -/
def isExcessive (p : Numeral) : Bool :=
  let (n, power) := p.leading
  if n = 0 ∨ power < 0 then false
  else if 308 < power then true
  else ((Binary64.ofNat n).scale ((Binary64.ofNat (Nat.pow 10 power.toNat)).units / Binary64.one)).isInfinite

/-- The spelling of a number that is no integer: it has a point or an exponent. -/
def spelling (p : Numeral) : String :=
  let sign (b : Bool) := if b then "-" else ""
  sign p.negative ++ String.ofList p.whole ++
    (match p.places with
      | some ds => "." ++ String.ofList ds
      | none => if p.exponent.isNone then ".0" else "") ++
    (match p.exponent with | some (b, ds) => "e" ++ sign b ++ String.ofList ds | none => "")

end Numeral

end LocalVolumes.Json
