import LocalVolumes.Text.Blank
import LocalVolumes.Yaml.Node
import LocalVolumes.Yaml.Style

/-!
# LocalVolumes.Binding — volume groups bound to a storage class

A binding ties a storage class to one volume group and, for thin classes, to one of its thin pools.  The
bindings of a storage class travel in one of its parameters, as a YAML list of mappings with `name` and,
inside `thin`, `poolName`.
-/

namespace LocalVolumes

/-- A thin pool of a volume group, by its name. -/
structure ThinPoolRef where
  poolName : String
  deriving DecidableEq, Repr

/-- One volume group of a storage class. -/
structure Binding where
  name : String
  thin : Option ThinPoolRef
  deriving DecidableEq, Repr

namespace Binding

/-- A binding to a whole group. -/
def ofGroup (name : String) : Binding := ⟨name, none⟩

/-- A binding to a pool of a group. -/
def ofPool (name pool : String) : Binding := ⟨name, some ⟨pool⟩⟩

/-- The thin pool, if any. -/
def poolName? (b : Binding) : Option String := b.thin.map (·.poolName)

/-! ### Writing -/

/-- One binding as an item of the list. -/
def encodeItem (b : Binding) : List Char :=
  "- name: ".toList ++ Yaml.Scalar.write 4 b.name ++
    match b.thin with
    | none => []
    | some pool => "  thin:\n    poolName: ".toList ++ Yaml.Scalar.write 6 pool.poolName

/-- A list of bindings as text. -/
def encode (bs : List Binding) : String :=
  if bs = [] then "[]\n" else String.ofList (bs.flatMap encodeItem)

/-! ### Reading -/

open Yaml in
/-- The node that a node stands for. -/
def resolve (d : Document) : Node → Option Node
  | .reference mark => d.anchored.lookup mark
  | n => some n

open Yaml in
/-- The text of a scalar, of whatever style. -/
def text? (d : Document) (n : Node) : Option String :=
  match resolve d n with
  | some (.scalar text _ _) => some text
  | _ => none

open Yaml in
/-- The entries of a mapping by the texts of their keys.  Nothing at all is a mapping without entries. -/
def entries? (d : Document) (n : Node) : Option (List (String × Node)) :=
  match resolve d n with
  | some (.mapping es) => es.mapM (fun e => (text? d e.1).map (·, e.2))
  | some (.scalar "" true _) => some []
  | _ => none

open Yaml in
/-- The only entry of a key, if there is one; a second one is a fault. -/
def single? (es : List (String × Node)) (key : String) : Option (Option Node) :=
  match es.filter (fun e => e.1 == key) with
  | [] => some none
  | [e] => some (some e.2)
  | _ => none

open Yaml in
/-- A reference to a pool. -/
def readPool? (d : Document) (n : Node) : Option ThinPoolRef := do
  let es ← entries? d n
  let name ← (← single? es "poolName")
  some ⟨← text? d name⟩

open Yaml in
/-- A reference to a pool, or none where null stands: a plain scalar that is taken for null, or one with the tag of
null that says so. -/
def readThin? (d : Document) (n : Node) : Option (Option ThinPoolRef) :=
  match resolve d n with
  | some (.scalar text true none) => if Resemblance.isNull text then some none else none
  | some (.scalar text true (some tag)) =>
    if tag = Tag.null ∧ text ≠ "" ∧ Resemblance.isNull text then some none else none
  | some (.scalar _ false _) => none
  | some n => (readPool? d n).map some
  | none => none

open Yaml in
/-- A binding. -/
def read? (d : Document) (n : Node) : Option Binding := do
  let es ← entries? d n
  let name ← (← single? es "name")
  let name ← text? d name
  match ← single? es "thin" with
  | none => some ⟨name, none⟩
  | some n => some ⟨name, ← readThin? d n⟩

open Yaml in
/-- The bindings of a document. Nothing at all is the empty list. -/
def readAll? (d : Document) : Option (List Binding) :=
  match d.root with
  | none => some []
  | some (.sequence ns) => ns.mapM (read? d)
  | some (.scalar "" true _) => some []
  | _ => none

/-! ### References -/

open Yaml in
/-- How many references are followed to get from a node to the one that it stands for. -/
def hops : Node → Nat
  | .reference _ => 1
  | _ => 0

open Yaml in
/-- How many references are followed in reading a mapping: one to the mapping, those to its keys, and for the value of
a key as many as `within` says. -/
def hopsInMapping (d : Document) (within : String → Node → Nat) (n : Node) : Nat :=
  hops n + match resolve d n with
    | some (.mapping es) => es.foldr (fun e total => hops e.1 + ((text? d e.1).map (within · e.2)).getD 0 + total) 0
    | _ => 0

open Yaml in
/-- How many references are followed in reading a reference to a pool. -/
def hopsInPool (d : Document) : Node → Nat :=
  hopsInMapping d (fun key n => if key = "poolName" then hops n else 0)

open Yaml in
/-- How many references are followed in reading a binding. -/
def hopsInBinding (d : Document) : Node → Nat :=
  hopsInMapping d (fun key n =>
    if key = "name" then hops n else if key = "thin" then hopsInPool d n else 0)

open Yaml in
/-- Whether references are followed at most a hundred times as often as the document has parts.  A short text could
otherwise stand for a list that is far too long. -/
def isBounded (d : Document) : Bool :=
  match d.root with
  | some (.sequence ns) => ns.foldr (hopsInBinding d · + ·) 0 ≤ 100 * (Node.sequence ns).size
  | _ => true

/-- The list of bindings that a text holds. White space alone is the empty list. -/
def decode? (s : String) : Option (List Binding) :=
  if Text.isBlankText s then some []
  else ((Yaml.Document.ofText? s).filter isBounded).bind readAll?

end Binding

end LocalVolumes
