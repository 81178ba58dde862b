import LocalVolumes.Text.Blank
import LocalVolumes.Text.Digits

/-!
# LocalVolumes.Timestamp — points in time, as objects carry them

A timestamp is read from a text such as `2024-05-01T12:00:00.5+02:00` and written in UTC with whole seconds, as
`2024-05-01T10:00:00Z`.  The reader is generous with white space, with the number of digits and with the
spelling of the offset; it admits a 61st second, and years that lie far from the present.
-/

namespace LocalVolumes

namespace Timestamp

/-! ### Days -/

/-- The number of days of a month. -/
def daysIn (year : Int) (month : Nat) : Nat :=
  if month = 2 then
    if year % 4 = 0 ∧ (year % 100 ≠ 0 ∨ year % 400 = 0) then 29 else 28
  else if [4, 6, 9, 11].contains month then 30
  else 31

/-- Whether there is such a day, among those that can be told. -/
def isDay (year : Int) (month day : Nat) : Bool :=
  -262143 ≤ year && year ≤ 262142 && 1 ≤ month && month ≤ 12 && 1 ≤ day && day ≤ daysIn year month

/-- A day of the calendar. -/
structure Day where
  year : Int
  month : Nat
  day : Nat
  exists_day : isDay year month day = true
  deriving DecidableEq

namespace Day

/-- The day of a year, a month and a number, if there is one. -/
def ofParts? (year : Int) (month day : Nat) : Option Day :=
  if h : isDay year month day = true then some ⟨year, month, day, h⟩ else none

/-- The day after, unless this is the last one. -/
def next? (d : Day) : Option Day :=
  if d.day < daysIn d.year d.month then ofParts? d.year d.month (d.day + 1)
  else if d.month < 12 then ofParts? d.year (d.month + 1) 1
  else ofParts? (d.year + 1) 1 1

/-- The day before, unless this is the first one. -/
def previous? (d : Day) : Option Day :=
  if 1 < d.day then ofParts? d.year d.month (d.day - 1)
  else if 1 < d.month then ofParts? d.year (d.month - 1) (daysIn d.year (d.month - 1))
  else ofParts? (d.year - 1) 12 31

/-- The year of four digits, or with a sign; then the month and the number of the day. -/
def text (d : Day) : List Char :=
  let year := Text.paddedDecimal 4 d.year.natAbs
  (if d.year < 0 then '-' :: year else if 9999 < d.year then '+' :: year else year) ++
    '-' :: Text.paddedDecimal 2 d.month ++ '-' :: Text.paddedDecimal 2 d.day

end Day

end Timestamp

/-- A point in time to the second, in UTC. -/
structure Timestamp where
  day : Timestamp.Day
  /-- The minute of the day. -/
  minute : Nat
  /-- The second of the minute, which may have 61 of them. -/
  second : Nat
  deriving DecidableEq

namespace Timestamp

/-- The beginning of 1970. -/
def epoch : Timestamp := ⟨⟨1970, 1, 1, by decide⟩, 0, 0⟩

/-! ### Writing -/

/-- The text of a point in time. -/
def text (t : Timestamp) : String :=
  String.ofList (t.day.text ++ 'T' :: Text.paddedDecimal 2 (t.minute / 60) ++
    ':' :: Text.paddedDecimal 2 (t.minute % 60) ++ ':' :: Text.paddedDecimal 2 t.second ++ ['Z'])

/-! ### Reading -/

/-- The text after white space. -/
def skipBlank (cs : List Char) : List Char := cs.dropWhile Text.isBlank

/-- Reads a number of one to so many digits. -/
def digits? (width : Nat) (cs : List Char) : Option (Nat × List Char) :=
  let ds := (cs.take width).takeWhile Char.isDigit
  if ds = [] then none else some (Text.digitsValue ds, cs.drop ds.length)

/-- Reads a number of one or two digits, white space before it. -/
def number? (cs : List Char) : Option (Nat × List Char) := digits? 2 (skipBlank cs)

/-- Reads a number of two digits. -/
def twoDigits? : List Char → Option (Nat × List Char)
  | a :: b :: rest => if a.isDigit && b.isDigit then some (Text.digitsValue [a, b], rest) else none
  | _ => none

/-- Passes a mark, white space before it. -/
def mark? (mark : Char) (cs : List Char) : Option (List Char) :=
  match skipBlank cs with
  | c :: rest => if c = mark then some rest else none
  | [] => none

/-- Reads a year, white space before it: of at most four digits, or with a sign. -/
def year? (cs : List Char) : Option (Int × List Char) :=
  match skipBlank cs with
  | '-' :: rest => (digits? rest.length rest).map (fun r => (-(r.1 : Int), r.2))
  | '+' :: rest => (digits? rest.length rest).map (fun r => ((r.1 : Int), r.2))
  | cs => (digits? 4 cs).map (fun r => ((r.1 : Int), r.2))

/-- Reads a day of the calendar. -/
def day? (cs : List Char) : Option (Day × List Char) := do
  let (year, cs) ← year? cs
  let (month, cs) ← number? (← mark? '-' cs)
  let (day, cs) ← number? (← mark? '-' cs)
  return (← Day.ofParts? year month day, cs)

/-- Passes fractions of a second, of at least one digit. -/
def skipFraction? : List Char → Option (List Char)
  | '.' :: rest =>
    if (rest.head?.map Char.isDigit).getD false then some (rest.dropWhile Char.isDigit) else none
  | cs => some cs

/-- Reads a time of day: its minute and its second. -/
def clockTime? (cs : List Char) : Option ((Nat × Nat) × List Char) := do
  let (hour, cs) ← number? cs
  let (minute, cs) ← number? (← mark? ':' cs)
  let (second, cs) ← number? (← mark? ':' cs)
  let cs ← skipFraction? cs
  if hour < 24 ∧ minute < 60 ∧ second ≤ 60 then some ((60 * hour + minute, second), cs) else none

/-- Reads how many minutes the clocks of a place are ahead of UTC. -/
def offset? (cs : List Char) : Option (Int × List Char) :=
  if (cs.take 3).map Char.toLower = ['u', 't', 'c'] then some (0, cs.drop 3)
  else
    match cs with
    | [] => none
    | sign :: rest =>
      if sign = 'Z' ∨ sign = 'z' then some (0, rest)
      else if ['+', '-', '\u2212'].contains sign then do
        let (hours, rest) ← twoDigits? rest
        let (minutes, rest) ← twoDigits? (rest.dropWhile (fun c => c == ':' || Text.isBlank c))
        let ahead : Int := 60 * hours + minutes
        if hours < 24 ∧ minutes < 60 then some (if sign = '+' then ahead else -ahead, rest) else none
      else none

/-- The point in time of a day and a minute at a place whose clocks are `ahead` of UTC. -/
def ofLocal? (day : Day) (minute second : Nat) (ahead : Int) : Option Timestamp :=
  let minute : Int := minute - ahead
  if minute < 0 then day.previous?.map (⟨·, (minute + 1440).toNat, second⟩)
  else if 1440 ≤ minute then day.next?.map (⟨·, (minute - 1440).toNat, second⟩)
  else some ⟨day, minute.toNat, second⟩

/-- The point in time that a text stands for. -/
def ofText? (s : String) : Option Timestamp := do
  match ← day? s.toList with
  | (_, []) => none
  | (day, mark :: cs) =>
    if ['T', 't', ' '].contains mark then
      let ((minute, second), cs) ← clockTime? cs
      let (ahead, cs) ← offset? (skipBlank cs)
      if skipBlank cs = [] then ofLocal? day minute second ahead else none
    else none

end Timestamp

end LocalVolumes
