import LocalVolumes.Text.Blank
import LocalVolumes.Text.Digits

/-!
# LocalVolumes.LogFilter — which messages are logged

A filter is a list of directives.  A directive sets a level for the messages of certain targets: those that begin
with its text, or all of them if it has none.  Of the directives that concern a message the most specific one
decides, and of two that are alike the later.  A text holds directives such as `info`, `store=warn` or `store`,
with commas between them.
-/

namespace LocalVolumes

/-- How much is logged, from nothing to everything. -/
inductive LogLevel
  | off
  | error
  | warn
  | info
  | debug
  | trace
  deriving DecidableEq, Repr

namespace LogLevel

/-- The levels, from nothing to everything. -/
def all : List LogLevel := [.off, .error, .warn, .info, .debug, .trace]

/-- The word of a level. -/
def word : LogLevel → String
  | .off => "off"
  | .error => "error"
  | .warn => "warn"
  | .info => "info"
  | .debug => "debug"
  | .trace => "trace"

/-- The number of a level. -/
def rank : LogLevel → Nat
  | .off => 0
  | .error => 1
  | .warn => 2
  | .info => 3
  | .debug => 4
  | .trace => 5

/-- The level of a number or a word, of either case. -/
def ofText? (s : String) : Option LogLevel :=
  let digits := match s.toList with
    | '+' :: rest => rest
    | cs => cs
  if digits ≠ [] ∧ digits.all Char.isDigit then all[Text.digitsValue digits]?
  else all.find? (fun l => l.word.toList == s.toList.map Char.toLower)

/-- Whether messages are logged that merely inform. -/
def informs (l : LogLevel) : Bool := LogLevel.info.rank ≤ l.rank

end LogLevel

/-- The level of some messages. -/
structure LogDirective where
  /-- How the targets of the messages begin. -/
  target : Option String
  /-- Fields that the messages have. -/
  fields : List String
  level : LogLevel
  deriving DecidableEq, Repr

namespace LogDirective

/-- The directive for all messages. -/
def ofLevel (level : LogLevel) : LogDirective := ⟨none, [], level⟩

/-- Whether a directive concerns the plain messages of a target. -/
def concerns (target : String) (d : LogDirective) : Bool :=
  (d.target.map (·.toList.isPrefixOf target.toList)).getD true && d.fields.all (· == "message")

/-- Whether a directive is at least as specific as another one: by the length of its target, then by its
fields. -/
def isAsSpecific (d e : LogDirective) : Bool :=
  let length (d : LogDirective) : Nat := (d.target.map (·.length + 1)).getD 0
  length e < length d || (length e == length d && e.fields.length ≤ d.fields.length)

/-! ### Reading -/

/-- Why a text is no directive. -/
inductive Fault
  | malformed
  | level
  deriving DecidableEq, Repr

/-- The wording of a cause. -/
def Fault.message : Fault → String
  | .malformed => "invalid filter directive"
  | .level =>
    "error parsing level filter: expected one of \"off\", \"error\", \"warn\", \"info\", \"debug\", \"trace\"," ++
      " or a number 0-5"

/-- Where in a directive a reader is, and where that part begins. -/
inductive Place
  | start
  | word (first : Nat)
  | span (first : Nat)
  | field (first : Nat)
  | fieldsEnd
  | spanEnd
  | level (first : Nat)
  deriving DecidableEq, Repr

/-- What is known in the course of a directive. -/
structure Reading where
  place : Place := .start
  target : Option String := none
  span : Option String := none
  fields : List String := []

/-- Whether a directive may begin with a character. -/
def mayBegin (c : Char) : Bool := c.isAlphanum || 0x80 ≤ c.toNat || ['-', ':', '_'].contains c

/-- Reads a character at an index; `part` cuts the text between two of them. -/
def Reading.step (part : Nat → Nat → String) (r : Reading) (x : Char × Nat) : Except Fault Reading :=
  let (c, i) := x
  match r.place with
  | .start =>
    if c = '[' then .ok { r with place := .span (i + 1) }
    else if mayBegin c then .ok { r with place := .word i }
    else .error .malformed
  | .word k =>
    if c = '=' then .ok { r with target := some (part k i), place := .level (i + 1) }
    else if c = '[' then .ok { r with target := some (part k i), place := .span (i + 1) }
    else .ok r
  | .span k =>
    if c = ']' then .ok { r with span := some (part k i), place := .spanEnd }
    else if c = '\x7b' then
      .ok { r with span := (some (part k i)).filter (· ≠ ""), place := .field (i + 1) }
    else .ok r
  | .field k =>
    if c ≠ '\x7d' then .ok r
    else if part k i = "" then .error .malformed
    else .ok { r with fields := r.fields ++ [part k i], place := .fieldsEnd }
  | .fieldsEnd => if c = ']' then .ok { r with place := .spanEnd } else .error .malformed
  | .spanEnd =>
    if c = '=' then .ok { r with place := .level (i + 1) }
    else if c = '[' then .ok { r with place := .span (i + 1) }
    else .error .malformed
  | .level _ => .ok r

/-- What a reader has read at the end: the target and the level.  A word alone is either. -/
def Reading.finish (part : Nat → Nat → String) (length : Nat) (r : Reading) :
    Except Fault (Option String × LogLevel) :=
  match r.place with
  | .word k =>
    match LogLevel.ofText? (part k length) with
    | some level => .ok (none, level)
    | none => .ok (some (part k length), .trace)
  | .level k =>
    if part k length = "" then .ok (r.target, .trace)
    else
      match LogLevel.ofText? (part k length) with
      | some level => .ok (r.target, level)
      | none => .error .level
  | .spanEnd => .ok (r.target, .trace)
  | _ => .error .malformed

/-- The directive of a text, if it concerns messages at all: one that names a span or the value of a field does
not.  Places are counted from the first character that is no white space, but cut from the whole text. -/
def ofText (s : String) : Except Fault (Option LogDirective) := do
  let cs := s.toList
  let part (first last : Nat) : String := String.ofList ((cs.drop first).take (last - first))
  let r ← (Text.trimChars cs).zipIdx.foldlM (Reading.step part) {}
  let (target, level) ← r.finish part cs.length
  if r.span.isSome || r.fields.any (·.toList.contains '=') then return none
  else return some ⟨target, r.fields, level⟩

end LogDirective

namespace LogFilter

/-- The variable of the environment that holds directives. -/
def variableName : String := "RUST_LOG"

/-- The parts of a text between commas, empty ones left out. -/
def parts (s : String) : List String := (s.splitOn ",").filter (· ≠ "")

/-- The directives of a text; those that cannot be read are left out. -/
def ofText (s : String) : List LogDirective :=
  (parts s).filterMap (fun part => (LogDirective.ofText part).toOption.join)

/-- What is said about the directives of a text that cannot be read. -/
def complaints (s : String) : List String :=
  (parts s).filterMap (fun part =>
    match LogDirective.ofText part with
    | .ok _ => none
    | .error fault => some ("ignoring \x60" ++ part ++ "\x60: " ++ fault.message))

/-- The level of the plain messages of a target. -/
def level (filter : List LogDirective) (target : String) : LogLevel :=
  ((filter.filter (LogDirective.concerns target)).foldl (fun best d =>
    match best with
    | none => some d
    | some e => if d.isAsSpecific e then some d else some e) none).elim .off (·.level)

end LogFilter

end LocalVolumes
