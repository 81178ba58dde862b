/-!
# LocalVolumes.Text.Digits — rows of digits

Numbers as rows of digits: decimal ones, and those of escapes in base sixteen.
-/

namespace LocalVolumes.Text

/-- The value of a digit of either case. -/
def hexValue? (c : Char) : Option Nat :=
  if c.isDigit then some (c.toNat - '0'.toNat)
  else if 'a' ≤ c ∧ c ≤ 'f' then some (c.toNat - 'a'.toNat + 10)
  else if 'A' ≤ c ∧ c ≤ 'F' then some (c.toNat - 'A'.toNat + 10)
  else none

/-- The digits of a number, lower case, at least one. -/
def hexDigits (n : Nat) : List Char := if n = 0 then ['0'] else Nat.toDigits 16 n

/-- The digits of a number, at least so many. -/
def paddedHex (width n : Nat) : List Char :=
  let ds := hexDigits n
  List.replicate (width - ds.length) '0' ++ ds

/-- The decimal digits of a number, at least so many. -/
def paddedDecimal (width n : Nat) : List Char :=
  let ds := Nat.toDigits 10 n
  List.replicate (width - ds.length) '0' ++ ds

/-- The value of a row of decimal digits. -/
def digitsValue (ds : List Char) : Nat := ds.foldl (fun n d => 10 * n + (d.toNat - '0'.toNat)) 0

end LocalVolumes.Text
