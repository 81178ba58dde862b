import LocalVolumes.Text.Digits

/-!
# LocalVolumes.SocketAddress — where a server listens

An address is four numbers with points between them, or eight in base sixteen with colons between them and in
brackets; the number of the socket follows.  In the long form one row of zeros may be left out, the last two numbers may be written
as four, and a zone may be named.
-/

namespace LocalVolumes

/-- The address of a host. -/
inductive HostAddress
  /-- Four bytes. -/
  | short (bytes : List Nat)
  /-- Eight numbers of 16 bits, and a zone. -/
  | long (groups : List Nat) (zone : Nat)
  deriving DecidableEq, Repr

/-- A host and the number of a socket there. -/
structure SocketAddress where
  host : HostAddress
  number : Nat
  deriving DecidableEq, Repr

namespace SocketAddress

/-! ### Numbers -/

/-- A number at the head of a text, below a limit and of any length. -/
def number? (limit : Nat) (cs : List Char) : Option (Nat × List Char) :=
  let ds := cs.takeWhile Char.isDigit
  if ds ≠ [] ∧ Text.digitsValue ds < limit then some (Text.digitsValue ds, cs.dropWhile Char.isDigit)
  else none

/-- A byte at the head of a text: at most three digits, of which the first is no zero unless it is alone. -/
def byte? (cs : List Char) : Option (Nat × List Char) :=
  let ds := cs.takeWhile Char.isDigit
  if ds.length ≤ 3 ∧ ¬ (ds.head? = some '0' ∧ 1 < ds.length) then number? 256 cs else none

/-- A number of at most four digits in base sixteen at the head of a text. -/
def group? (cs : List Char) : Option (Nat × List Char) :=
  let ds := cs.takeWhile (fun c => (Text.hexValue? c).isSome)
  if ds ≠ [] ∧ ds.length ≤ 4 then
    some (ds.foldl (fun n d => 16 * n + (Text.hexValue? d).getD 0) 0, cs.drop ds.length)
  else none

/-- Expects a character at the head of a text. -/
def expect (c : Char) : List Char → Option (List Char)
  | d :: cs => if d = c then some cs else none
  | [] => none

/-! ### Hosts -/

/-- Four bytes with points between them at the head of a text. -/
def bytes? (cs : List Char) : Option (List Nat × List Char) := do
  let (a, cs) ← byte? cs
  let (b, cs) ← byte? (← expect '.' cs)
  let (c, cs) ← byte? (← expect '.' cs)
  let (d, cs) ← byte? (← expect '.' cs)
  some ([a, b, c, d], cs)

/-- The text after the colon before a group; the first group has none. -/
def separated (first : Bool) (cs : List Char) : Option (List Char) :=
  if first then some cs else expect ':' cs

/-- Up to `limit` groups at the head of a text, whether the last two of them were written as bytes, and the text
after them. -/
def groups (first : Bool) (cs : List Char) : Nat → List Nat × Bool × List Char
  | 0 => ([], false, cs)
  | limit + 1 =>
    match if limit = 0 then none else (separated first cs).bind bytes? with
    | some ([a, b, c, d], rest) => ([256 * a + b, 256 * c + d], true, rest)
    | _ =>
      match (separated first cs).bind group? with
      | some (g, rest) =>
        let (gs, asBytes, rest) := groups false rest limit
        (g :: gs, asBytes, rest)
      | none => ([], false, cs)

/-- Eight groups at the head of a text; two colons stand for the zeros that are missing, at least one. -/
def eightGroups? (cs : List Char) : Option (List Nat × List Char) := do
  let (head, asBytes, rest) := groups true cs 8
  if head.length = 8 then some (head, rest)
  else if asBytes then none
  else
    let rest ← expect ':' (← expect ':' rest)
    let (tail, _, rest) := groups true rest (7 - head.length)
    some (head ++ List.replicate (8 - head.length - tail.length) 0 ++ tail, rest)

/-- A zone, which is zero if it is not named. -/
def zone (cs : List Char) : Nat × List Char :=
  (((expect '%' cs).bind (number? UInt32.size)).getD (0, cs))

/-- A host at the head of a text. -/
def host? (cs : List Char) : Option (HostAddress × List Char) :=
  match bytes? cs with
  | some (bytes, rest) => some (.short bytes, rest)
  | none => do
    let (gs, rest) ← eightGroups? (← expect '[' cs)
    let (z, rest) := zone rest
    some (.long gs z, ← expect ']' rest)

/-- The address of a text. -/
def ofText? (s : String) : Option SocketAddress := do
  let (host, rest) ← host? s.toList
  let (number, rest) ← number? UInt16.size (← expect ':' rest)
  if rest = [] then some ⟨host, number⟩ else none

end SocketAddress

end LocalVolumes
