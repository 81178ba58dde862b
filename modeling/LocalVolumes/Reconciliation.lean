import LocalVolumes.Causes
import LocalVolumes.Routine

/-!
# LocalVolumes.Reconciliation — passes over local classes

A pass looks at a local class and at the storage classes that there are, decides which of four flows to run, and
runs it: create the storage class, put it right, take it away, or do nothing.  A failure is recorded in the status
of the class before the pass ends with it.
-/

namespace LocalVolumes

/-- What a pass does. -/
inductive Flow
  | create
  | update
  | delete
  | nothing
  deriving DecidableEq, Repr

/-- The word of a flow. -/
def Flow.word : Flow → String
  | .create => "create"
  | .update => "update"
  | .delete => "delete"
  | .nothing => "none"

/-- How a pass that does not fail ends. -/
inductive Outcome
  /-- All is as it should be. -/
  | done
  /-- Someone else was faster: to be run again. -/
  | again
  deriving DecidableEq, Repr

/-- The storage class of a name. -/
def findClass? (classes : List StorageClass) (name : String) : Option StorageClass :=
  classes.find? (fun sc => sc.metadata.name == some name)

/-- The storage class of a name belongs to someone else. -/
def Fault.foreignClass (name : String) : Fault :=
  .conflict StorageClass.kind name
    ("a storage class " ++ name ++ " already exists and does not belong to " ++ Marks.provisioner ++
      " provisioner")

/-- Which flow a pass runs.  A class with a selector is always looked at closely, because the groups that it
chooses may change without it. -/
def identifyFlow (c : LocalClass) (classes : List StorageClass) : Except Fault Flow :=
  if c.isBeingDeleted then .ok .delete
  else
    match findClass? classes c.name with
    | none => .ok .create
    | some current =>
      if !current.isManaged then .error (.foreignClass c.name)
      else if c.usesSelector then .ok .update
      else do
        let bindings ← resolved [] c
        if ← drifted current c bindings then .ok .update
        else if c.isFailed then .ok .update
        else .ok .nothing

namespace Pass

/-! ### Status -/

/-- Writes a status, unless the class has it already.  The answer is the class as it is then. -/
def setStatus (c : LocalClass) (status : ClassStatus) : Routine (Except Fault LocalClass) :=
  if c.status = some status then pure (.ok c)
  else Routine.call (.replaceLocalClassStatus { c with status := some status })

/-- Records a failure.  The answer is what the pass fails with: if the status cannot be written, that. -/
def fail (c : LocalClass) (e : Fault) : Routine Fault := do
  match ← setStatus c (.failed e.statusReason) with
  | .ok _ => pure e
  | .error e' => pure e'

/-- Ends a pass with a failure, after recording it. -/
def abandon (c : LocalClass) (e : Fault) : Routine (Except Fault Outcome) := do
  return .error (← fail c e)

/-- Ends a pass with success, after recording it. -/
def succeed (c : LocalClass) : Routine (Except Fault Outcome) := do
  match ← setStatus c .created with
  | .ok _ => pure (.ok .done)
  | .error e => pure (.error e)

/-! ### The common part of creation and update -/

/-- The inventory could not be listed. -/
def inventoryFault (e : Fault) : Fault :=
  .internal ("Unable to list LVMVolumeGroups: " ++ e.message)

/-- The bindings of a class, if it can be put into effect. -/
def judge (c : LocalClass) (inventory : List VolumeGroup) (classes : List StorageClass) :
    Except Fault (List Binding) := do
  let bindings ← resolved inventory c
  admitted (violations c bindings inventory classes)
  .ok bindings

/-! ### Creation -/

/-- Creates the storage class of the given name, once the class has the finalizer. -/
def createClass (name : String) (c : LocalClass) (classes : List StorageClass) :
    Routine (Except Fault Outcome) := do
  match ← Routine.call .listVolumeGroups with
  | .error e => abandon c (inventoryFault e)
  | .ok inventory =>
    match (do
      let bindings ← judge c inventory classes
      materialized c bindings) with
    | .error e => abandon c e
    | .ok desired =>
      if (findClass? classes name).isSome then pure (.ok .again)
      else
        match ← Routine.call (.createStorageClass desired) with
        | .ok _ => succeed c
        | .error e => if e.isAlreadyExists then pure (.ok .again) else abandon c e

/-- The flow of creation.  The finalizer comes first, so that no storage class is left behind if the pass ends
early. -/
def create (c : LocalClass) (classes : List StorageClass) : Routine (Except Fault Outcome) :=
  match c.addFinalizer with
  | (marked, true) => do
    match ← Routine.call (.replaceLocalClass marked) with
    | .error e => pure (.error e)
    | .ok stored => createClass c.name stored classes
  | (_, false) => createClass c.name c classes

/-! ### Taking a storage class away -/

/-- A storage class is not to be touched. -/
def notOwned (name : String) : Fault :=
  .conflict StorageClass.kind name
    ("a storage class " ++ name ++ " does not belong to " ++ Marks.provisioner ++ " provisioner")

/-- Takes the finalizers of the controller from a managed storage class, then deletes it. -/
def deleteClass (current : StorageClass) : Routine (Except Fault Unit) := do
  let name := current.metadata.name.getD ""
  if !current.isManaged then pure (.error (notOwned name))
  else if current.metadata.hasAnyFinalizer Marks.controllerFinalizers then
    let stripped :=
      { current with metadata := current.metadata.removeFinalizers Marks.controllerFinalizers }
    match ← Routine.call (.replaceStorageClass stripped) with
    | .error e => pure (.error e)
    | .ok _ => Routine.call (.deleteStorageClass name)
  else Routine.call (.deleteStorageClass name)

/-! ### Update -/

/-- Puts another storage class in the place of one: its parameters cannot be changed. -/
def recreate (current replacement : StorageClass) : Routine (Except Fault Unit) := do
  match ← deleteClass current with
  | .error e => pure (.error e)
  | .ok () =>
    match ← Routine.call (.createStorageClass replacement) with
    | .error e => pure (.error e)
    | .ok _ => pure (.ok ())

/-- What the storage class has to give way to, if it is not as it should be. -/
def revise (c : LocalClass) (inventory : List VolumeGroup) (classes : List StorageClass) :
    Except Fault (StorageClass × Option StorageClass) := do
  let bindings ← judge c inventory classes
  match findClass? classes c.name with
  | none => .error (.resourceNotFound StorageClass.kind c.name)
  | some current =>
    if ← drifted current c bindings then
      let sc ← replacement c bindings current
      .ok (current, some sc)
    else .ok (current, none)

/-- The flow of update. -/
def update (c : LocalClass) (classes : List StorageClass) : Routine (Except Fault Outcome) := do
  match ← Routine.call .listVolumeGroups with
  | .error e => abandon c (inventoryFault e)
  | .ok inventory =>
    match revise c inventory classes with
    | .error e => abandon c e
    | .ok (_, none) => succeed c
    | .ok (current, some sc) =>
      match ← recreate current sc with
      | .error e => abandon c e
      | .ok () => succeed c

/-! ### Deletion -/

/-- Lets go of the class: takes the finalizers of the controller away. -/
def release (c : LocalClass) : Routine (Except Fault Outcome) :=
  match c.removeFinalizer with
  | (released, true) => do
    match ← Routine.call (.replaceLocalClass released) with
    | .ok _ => pure (.ok .done)
    | .error e => abandon released (.internal ("Unable to remove a finalizer, err: " ++ e.message))
  | (_, false) => pure (.ok .done)

/-- The flow of deletion. A storage class of someone else stays. -/
def delete (c : LocalClass) (classes : List StorageClass) : Routine (Except Fault Outcome) :=
  match findClass? classes c.name with
  | none => release c
  | some current =>
    if !current.isManaged then release c
    else do
      match ← deleteClass current with
      | .ok () => release c
      | .error e => abandon c (.internal ("Unable to delete a storage class, err: " ++ e.message))

/-! ### The pass -/

/-- Runs a flow. -/
def run (c : LocalClass) (classes : List StorageClass) : Flow → Routine (Except Fault Outcome)
  | .create => create c classes
  | .update => update c classes
  | .delete => delete c classes
  | .nothing => pure (.ok .done)

end Pass

/-- Whether a result is a success. -/
def isOk {ε α : Type} : Except ε α → Bool
  | .ok _ => true
  | .error _ => false

/-- A pass over a class. -/
def reconcile (c : LocalClass) : Routine (Except Fault Outcome) := do
  match ← Routine.call .listStorageClasses with
  | .error e => pure (.error e)
  | .ok classes =>
    match identifyFlow c classes with
    | .error e =>
      Routine.record (.reconciliation "identify" false)
      Pass.abandon c e
    | .ok flow =>
      let r ← Pass.run c classes flow
      Routine.record (.reconciliation flow.word (isOk r))
      pure r

/-! ### When a pass runs -/

/-- What follows a pass. -/
inductive Requeue
  /-- A change has to come. -/
  | awaitChange
  /-- It runs again after so many milliseconds. -/
  | after (ms : Nat)
  deriving DecidableEq, Repr

/-- A pass over the class of a name as it is stored; `interval` is the wait before a pass is run again. -/
def reconcileNamed (interval : Nat) (name : String) : Routine (Except Fault Requeue) := do
  match ← Routine.call (.getLocalClass name) with
  | .error e => pure (.error e)
  | .ok none => pure (.ok .awaitChange)
  | .ok (some c) =>
    match ← reconcile c with
    | .error e => pure (.error e)
    | .ok .done => pure (.ok .awaitChange)
    | .ok .again => pure (.ok (.after interval))

/-- What follows a pass that failed. -/
def errorPolicy (interval : Nat) (e : Fault) : Requeue :=
  match e.action with
  | .awaitChange => .awaitChange
  | .retryAfter ms => .after ms
  | .backOff => .after interval

/-- The names of the classes that a change of a group may concern, ascending and without repetition. -/
def classesAffectedBy (classes : List LocalClass) (group : String) : List String :=
  sortedNames ((classes.filter
    (fun c => c.usesSelector || c.referencesGroup group || c.isFailed)).map (·.name))

end LocalVolumes
