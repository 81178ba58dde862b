import LocalVolumes.Text.Digits

/-!
# LocalVolumes.Service.Route — what a path stands for

The paths of the service.  The name of a volume in a path is written with percent signs before the codes of its
bytes where it could not stand otherwise.
-/

namespace LocalVolumes.Service

/-- A path of the service; the name of a volume is as it stands in the path. -/
inductive Route
  | volumes
  | volume (id : String)
  | expansion (id : String)
  | health
  | ready
  deriving DecidableEq, Repr

namespace Route

/-- The route of a path.  What follows a question mark does not count.  Before the last part of a path the name of a
volume may be empty. -/
def ofPath? (path : String) : Option Route :=
  let path := String.ofList (path.toList.takeWhile (fun c => c ≠ '?' && c ≠ '#'))
  match path.splitOn "/" with
  | ["", "v1", "volumes"] => some .volumes
  | ["", "v1", "volumes", id] => if id = "" then none else some (.volume id)
  | ["", "v1", "volumes", id, "expand"] => some (.expansion id)
  | ["", "health"] => some .health
  | ["", "ready"] => some .ready
  | _ => none

/-- The methods that a route admits. -/
def methods : Route → List String
  | .volumes => ["POST"]
  | .volume _ => ["DELETE"]
  | .expansion _ => ["POST"]
  | .health => ["GET", "HEAD"]
  | .ready => ["GET", "HEAD"]

/-! ### Names in paths -/

/-- The bytes of a name; a percent sign without a code stands for itself. -/
def nameBytes : List Char → List UInt8
  | [] => []
  | '%' :: a :: b :: rest =>
    match Text.hexValue? a, Text.hexValue? b with
    | some x, some y => UInt8.ofNat (16 * x + y) :: nameBytes rest
    | _, _ => '%'.toNat.toUInt8 :: nameBytes (a :: b :: rest)
  | c :: rest => (String.singleton c).toUTF8.toList ++ nameBytes rest

/-- The name that a part of a path stands for, if its bytes are text. -/
def decodeName? (part : String) : Option String :=
  String.fromUTF8? ⟨(nameBytes part.toList).toArray⟩

end Route

end LocalVolumes.Service
