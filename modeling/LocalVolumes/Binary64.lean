/-!
# LocalVolumes.Binary64 — double precision numbers in exact arithmetic

A non-negative finite double is a whole number of units of `2 ^ -1074`.  Rounding a quotient to the nearest
double is then arithmetic on natural numbers: of the quotient in units the leading 53 binary digits are
kept, and a half goes to the even neighbour.
-/

namespace LocalVolumes

/-- A non-negative double, in units of `2 ^ -1074`; infinite from `2 ^ 1024` on. -/
structure Binary64 where
  units : Nat
  deriving DecidableEq, Repr

namespace Binary64

/-- The number of units in one. -/
def one : Nat := 1 <<< 1074

/-- The quotient to the nearest whole number; a half goes to the even one. -/
def roundQuotient (num den : Nat) : Nat :=
  let q := num / den
  let r := num % den
  if 2 * r < den then q else if den < 2 * r then q + 1 else if q % 2 = 0 then q else q + 1

/-- The double nearest to a quotient. -/
def ofQuotient (num den : Nat) : Binary64 :=
  let scaled := num * one
  let size := if scaled / den = 0 then 0 else Nat.log2 (scaled / den) + 1
  let dropped := 1 <<< (size - 53)
  ⟨roundQuotient scaled (den * dropped) * dropped⟩

/-- Whether the number is too large for a finite double. -/
def isInfinite (x : Binary64) : Bool := one <<< 1024 ≤ x.units

/-- The double nearest to a natural number. -/
def ofNat (n : Nat) : Binary64 := ofQuotient n 1

/-- The double nearest to the product with a natural number that is itself a double. -/
def scale (x : Binary64) (n : Nat) : Binary64 := ofQuotient (x.units * n) one

/-- The double nearest to the sum. -/
def add (x y : Binary64) : Binary64 := ofQuotient (x.units + y.units) one

/-- The least natural number that is not below. -/
def ceil (x : Binary64) : Nat := (x.units + (one - 1)) / one

/-! ### Shortest decimal text -/

/-- Whether a decimal `digits / 10 ^ places` reads back as the double: it lies within half a unit in the
last place, the ends included when the significand is even. -/
def readsBack (x : Binary64) (digits places : Nat) : Bool := ofQuotient digits (Nat.pow 10 places) = x

/-- The decimal with the fewest places that reads back, as its digits and the number of places, looked for
from `places` on. -/
def shortestFrom (x : Binary64) : Nat → Nat → Nat × Nat
  | 0, places => (roundQuotient (x.units * Nat.pow 10 places) one, places)
  | fuel + 1, places =>
    let digits := roundQuotient (x.units * Nat.pow 10 places) one
    if x.readsBack digits places then (digits, places) else shortestFrom x fuel (places + 1)

/-- The whole number with the most trailing zeros that reads back, of at most `zeros` zeros. -/
def roundestWhole (x : Binary64) : Nat → Nat
  | 0 => x.ceil
  | zeros + 1 =>
    let unit := Nat.pow 10 (zeros + 1)
    let digits := roundQuotient x.units (one * unit)
    if x.readsBack (digits * unit) 0 then digits * unit
    else roundestWhole x zeros

/-- The shortest decimal that reads back, without an exponent. -/
def toDecimal (x : Binary64) : String :=
  if x.units % one = 0 then toString (roundestWhole x 309)
  else
    let (digits, places) := shortestFrom x 1100 1
    let text := toString (digits % Nat.pow 10 places)
    toString (digits / Nat.pow 10 places) ++ "." ++ "".pushn '0' (places - text.length) ++ text

end Binary64

end LocalVolumes
