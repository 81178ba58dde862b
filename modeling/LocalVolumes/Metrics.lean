import LocalVolumes.Binary64
import LocalVolumes.Routine

/-!
# LocalVolumes.Metrics — what was done, counted

Passes and operations are counted by their outcome; how long operations took, and how many looks a volume needed,
is counted in buckets.  `Metrics.lines` is the text format in which a monitor reads them: families ascending by
name, samples by their labels, families without samples left out.
-/

namespace LocalVolumes

/-- Observations counted in buckets. -/
structure Histogram where
  /-- For every bucket how many observations are in it or below. -/
  cumulative : List Nat
  count : Nat
  sum : Binary64
  deriving DecidableEq, Repr

/-- What was counted. -/
structure Metrics where
  /-- By action and result. -/
  reconciliations : NameMap (NameMap Nat) := ∅
  /-- By operation and result. -/
  operations : NameMap (NameMap Nat) := ∅
  durations : NameMap Histogram := ∅
  attempts : NameMap Histogram := ∅

namespace Metrics

/-- The upper ends of the buckets of durations, as they are written and in milliseconds. -/
def durationBounds : List (String × Nat) :=
  [("0.5", 500), ("1", 1000), ("2.5", 2500), ("5", 5000), ("10", 10000), ("30", 30000),
    ("60", 60000), ("120", 120000), ("300", 300000)]

/-- The upper ends of the buckets of attempts. -/
def attemptBounds : List (String × Nat) :=
  [("1", 1), ("2", 2), ("5", 5), ("10", 10), ("20", 20), ("60", 60), ("120", 120), ("600", 600)]

/-- The word of a result. -/
def resultWord (ok : Bool) : String := if ok then "success" else "error"

/-- A duration in seconds: whole seconds and the fraction are rounded apart, then their sum. -/
def seconds (ms : Nat) : Binary64 :=
  (Binary64.ofNat (ms / 1000)).add (Binary64.ofQuotient (ms % 1000) 1000)

/-! ### Counting -/

/-- Counts once more by two labels. -/
def count (outer inner : String) (m : NameMap (NameMap Nat)) : NameMap (NameMap Nat) :=
  let counts := (m.get? outer).getD ∅
  m.insert outer (counts.insert inner ((counts.get? inner).getD 0 + 1))

/-- Counts an observation of the given size, which is added to the sum as `value`. -/
def observe (bounds : List (String × Nat)) (label : String) (size : Nat) (value : Binary64)
    (m : NameMap Histogram) : NameMap Histogram :=
  let h := (m.get? label).getD ⟨bounds.map (fun _ => 0), 0, ⟨0⟩⟩
  m.insert label
    { cumulative := List.zipWith (fun n b => if size ≤ b.2 then n + 1 else n) h.cumulative bounds
      count := h.count + 1
      sum := h.sum.add value }

/-- Counts a sample. -/
def record (m : Metrics) : Sample → Metrics
  | .reconciliation action ok =>
    { m with reconciliations := count action (resultWord ok) m.reconciliations }
  | .provisioning operation ok ms =>
    { m with
      operations := count operation (resultWord ok) m.operations
      durations := observe durationBounds operation ms (seconds ms) m.durations }
  | .convergence operation attempts =>
    { m with
      attempts := observe attemptBounds operation attempts (Binary64.ofNat attempts) m.attempts }

/-! ### The text format -/

/-- What comes before the name of every family. -/
def namePrefix : String := "local_volume_operator_"

/-- The type of the text format. -/
def contentType : String := "text/plain; version=0.0.4"

/-- A label value, with backslash, quote and line feed escaped. -/
def escapeLabel (s : String) : String :=
  String.ofList (s.toList.flatMap (fun c =>
    if c = '\\' then ['\\', '\\'] else if c = '"' then ['\\', '"']
    else if c = '\n' then ['\\', 'n'] else [c]))

/-- A line of a sample. -/
def sampleLine (name : String) (labels : List (String × String)) (value : String) : String :=
  let label (l : String × String) : String := l.1 ++ "=\"" ++ escapeLabel l.2 ++ "\""
  namePrefix ++ name ++ "\x7b" ++ ",".intercalate (labels.map label) ++ "\x7d " ++ value

/-- The comment lines of a family, before its samples; none without samples. -/
def family (name help type : String) (samples : List String) : List String :=
  if samples.isEmpty then []
  else
    ("# HELP " ++ namePrefix ++ name ++ " " ++ help) :: ("# TYPE " ++ namePrefix ++ name ++ " " ++ type) ::
      samples

/-- The samples of counters by two labels. -/
def counterLines (name outerName innerName : String) (m : NameMap (NameMap Nat)) : List String :=
  m.toList.flatMap (fun outer => outer.2.toList.map (fun inner =>
    sampleLine name [(outerName, outer.1), (innerName, inner.1)] (toString inner.2)))

/-- The samples of a histogram for every operation. -/
def histogramLines (name : String) (bounds : List (String × Nat)) (m : NameMap Histogram) :
    List String :=
  m.toList.flatMap (fun e =>
    let bucket (le : String) (n : Nat) : String :=
      sampleLine (name ++ "_bucket") [("operation", e.1), ("le", le)] (toString n)
    List.zipWith (fun b n => bucket b.1 n) bounds e.2.cumulative ++
      [bucket "+Inf" e.2.count,
        sampleLine (name ++ "_sum") [("operation", e.1)] e.2.sum.toDecimal,
        sampleLine (name ++ "_count") [("operation", e.1)] (toString e.2.count)])

/-- The lines of the text format. -/
def lines (m : Metrics) : List String :=
  family "convergence_attempts" "Status polls needed for a logical volume to converge" "histogram"
      (histogramLines "convergence_attempts" attemptBounds m.attempts) ++
    family "provisioning_duration_seconds" "Duration of volume provisioning operations" "histogram"
      (histogramLines "provisioning_duration_seconds" durationBounds m.durations) ++
    family "provisioning_operations_total" "Volume provisioning operations by operation and result"
      "counter" (counterLines "provisioning_operations_total" "operation" "result" m.operations) ++
    family "reconciliations_total" "LocalStorageClass reconciliations by action and result" "counter"
      (counterLines "reconciliations_total" "action" "result" m.reconciliations)

/-- The lines without the comments. -/
def sampleLines (m : Metrics) : List String := m.lines.filter (!·.startsWith "#")

end Metrics

end LocalVolumes
