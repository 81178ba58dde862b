import LocalVolumes.Causes
import LocalVolumes.Call

/-!
# LocalVolumes.Cluster — a cluster in memory

A cluster as far as its clients see it: objects with versions, replacements that fail on a stale version,
deletions that only mark an object as long as it has finalizers, and a status that is written apart from the rest.
Writes that succeed are journaled.  Failures can be planned ahead, and volumes can be made to converge by
themselves after they were looked at some times.
-/

namespace LocalVolumes

/-- A call by its name and its object, as the journal and planned failures have it. -/
inductive Operation
  | listStorageClasses
  | createStorageClass (name : String)
  | replaceStorageClass (name : String)
  | deleteStorageClass (name : String)
  | replaceLocalClass (name : String)
  | replaceLocalClassStatus (name : String)
  | listVolumeGroups
  | createVolume (name : String)
  | getVolume (name : String)
  | replaceVolume (name : String)
  | deleteVolume (name : String)
  deriving DecidableEq, Repr

namespace Operation

/-- Whether the operation changes something. -/
def isWrite : Operation → Bool
  | .listStorageClasses => false
  | .listVolumeGroups => false
  | .getVolume _ => false
  | _ => true

/-- Whether a storage class comes or goes by it. -/
def isStorageClassLifecycle : Operation → Bool
  | .createStorageClass _ => true
  | .deleteStorageClass _ => true
  | _ => false

/-- The word of the operation. -/
def word : Operation → String
  | .listStorageClasses => "ListStorageClasses"
  | .createStorageClass _ => "CreateStorageClass"
  | .replaceStorageClass _ => "ReplaceStorageClass"
  | .deleteStorageClass _ => "DeleteStorageClass"
  | .replaceLocalClass _ => "ReplaceLocalStorageClass"
  | .replaceLocalClassStatus _ => "ReplaceLocalStorageClassStatus"
  | .listVolumeGroups => "ListVolumeGroups"
  | .createVolume _ => "CreateLogicalVolume"
  | .getVolume _ => "GetLogicalVolume"
  | .replaceVolume _ => "ReplaceLogicalVolume"
  | .deleteVolume _ => "DeleteLogicalVolume"

/-- The object of the operation, empty for a list. -/
def target : Operation → String
  | .listStorageClasses => ""
  | .createStorageClass name => name
  | .replaceStorageClass name => name
  | .deleteStorageClass name => name
  | .replaceLocalClass name => name
  | .replaceLocalClassStatus name => name
  | .listVolumeGroups => ""
  | .createVolume name => name
  | .getVolume name => name
  | .replaceVolume name => name
  | .deleteVolume name => name

/-- The operation of a word and an object. -/
def ofWord? (word name : String) : Option Operation :=
  [Operation.listStorageClasses, .createStorageClass name, .replaceStorageClass name,
    .deleteStorageClass name, .replaceLocalClass name, .replaceLocalClassStatus name,
    .listVolumeGroups, .createVolume name, .getVolume name, .replaceVolume name,
    .deleteVolume name].find? (fun op => op.word == word)

/-- The operation in the journal; a mark tells of a storage class that comes or goes. -/
def entry (op : Operation) : String :=
  op.word ++ (if op.isStorageClassLifecycle then "!" else "") ++ ":" ++ op.target

end Operation

/-- How volumes converge by themselves. -/
structure Convergence where
  /-- After how many looks. -/
  afterPolls : Nat
  /-- Of what their sizes are multiples. -/
  extentBytes : Nat
  deriving DecidableEq, Repr

/-- A cluster. -/
structure Cluster where
  storageClasses : NameMap StorageClass := ∅
  localClasses : NameMap LocalClass := ∅
  groups : NameMap VolumeGroup := ∅
  volumes : NameMap LogicalVolume := ∅
  /-- How often volumes were looked at. -/
  polls : NameMap Nat := ∅
  /-- The last version that was given. -/
  version : Nat := 0
  /-- The time, which is the timestamp of a deletion. -/
  now : Timestamp := .epoch
  /-- The writes that succeeded, in order. -/
  journal : List Operation := []
  /-- Planned failures, in the order in which they were planned. -/
  failures : List (Operation × Fault) := []
  convergence : Option Convergence := none

namespace Cluster

/-! ### Objects of one kind -/

section Objects

variable {α : Type} [Resource α]

/-- An object with another version and deletion timestamp. -/
def stamped (a : α) (version : String) (deleted : Option Timestamp) : α :=
  Resource.withMetadata a
    { Resource.metadata a with resourceVersion := some version, deletionTimestamp := deleted }

/-- Stores a new object, which is not being deleted. -/
def createObject (kind : String) (m : NameMap α) (a : α) (version : String) :
    Except Fault (α × NameMap α) :=
  if m.contains (Resource.key a) then .error (.resourceExists kind (Resource.key a))
  else
    let stored := stamped a version none
    .ok (stored, m.insert (Resource.key a) stored)

/-- The object of a replacement has another version. -/
def stale (kind name : String) : Fault :=
  .conflict kind name
    "the object has been modified; please apply your changes to the latest version"

/-- Whether a request may replace what is stored: it carries no version, or the stored one. -/
def isCurrent (stored request : α) : Bool :=
  match (Resource.metadata request).resourceVersion with
  | none => true
  | some v => (Resource.metadata stored).resourceVersion == some v

/-- Replaces an object by what `merge` makes of the stored one and the request.  A deletion timestamp stays, and
an object that has one goes with its last finalizer. -/
def replaceObject (kind : String) (m : NameMap α) (a : α) (version : String)
    (merge : α → α → α) : Except Fault (α × NameMap α) :=
  match m.get? (Resource.key a) with
  | none => .error (.resourceNotFound kind (Resource.key a))
  | some stored =>
    if isCurrent stored a then
      let deleted := (Resource.metadata stored).deletionTimestamp
      let updated := stamped (merge stored a) version deleted
      if deleted.isSome && (Resource.metadata updated).finalizerList.isEmpty then
        .ok (updated, m.erase (Resource.key a))
      else .ok (updated, m.insert (Resource.key a) updated)
    else .error (stale kind (Resource.key a))

/-- Deletes an object: at once if it has no finalizers, otherwise it is marked, unless it is already. -/
def markDeleted (m : NameMap α) (name version : String) (now : Timestamp) : NameMap α :=
  match m.get? name with
  | none => m
  | some a =>
    if (Resource.metadata a).finalizerList.isEmpty then m.erase name
    else if (Resource.metadata a).isBeingDeleted then m
    else m.insert name (stamped a version (some now))

/-- Stores an object as another actor would, whatever is stored. -/
def putObject (m : NameMap α) (a : α) (version : String) : NameMap α :=
  m.insert (Resource.key a)
    (Resource.withMetadata a { Resource.metadata a with resourceVersion := some version })

end Objects

/-! ### Versions, failures and the journal -/

/-- The cluster with its next version given. -/
def bump (s : Cluster) : Cluster := { s with version := s.version + 1 }

/-- The last version as objects carry it. -/
def versionText (s : Cluster) : String := toString s.version

/-- The first failure planned for an operation, and the others. -/
def takeFailure (op : Operation) :
    List (Operation × Fault) → Option (Fault × List (Operation × Fault))
  | [] => none
  | f :: fs =>
    if f.1 = op then some (f.2, fs) else (takeFailure op fs).map (fun r => (r.1, f :: r.2))

/-- Does something unless a failure is planned for the operation. -/
def attempt {α : Type} (op : Operation) (s : Cluster)
    (act : Cluster → Except Fault α × Cluster) : Except Fault α × Cluster :=
  match takeFailure op s.failures with
  | some (e, failures) => (.error e, { s with failures })
  | none => act s

/-- Writes something under the next version and journals it if it succeeds. -/
def write {α : Type} (op : Operation) (s : Cluster)
    (act : Cluster → Except Fault (α × Cluster)) : Except Fault α × Cluster :=
  attempt op s (fun s =>
    match act s.bump with
    | .error e => (.error e, s.bump)
    | .ok (a, s) => (.ok a, { s with journal := s.journal ++ [op] }))

/-! ### Volumes that converge -/

/-- A size as the least multiple of the extent that is not below, in the arithmetic of 64 bits. -/
def roundToExtent (bytes extent : Nat) : Nat :=
  let extent := max extent 1
  ((bytes + (extent - 1)) / extent * extent) % sizeLimit

/-- The status of a volume that has converged. -/
def convergedStatus (bytes : Nat) : VolumeStatus := ⟨some .created, none, some ⟨toString bytes⟩⟩

/-- Lets a volume that is looked at come closer to convergence. -/
def pollVolume (name : String) (v : LogicalVolume) (s : Cluster) : Except Fault Unit × Cluster :=
  match s.convergence with
  | none => (.ok (), s)
  | some c =>
    let count := (s.polls.get? name).getD 0 + 1
    let s := { s with polls := s.polls.insert name count }
    if count < c.afterPolls then (.ok (), s)
    else
      let s := s.bump
      match v.requestedBytes with
      | .error cause => (.error cause.toFault, s)
      | .ok requested =>
        let status := convergedStatus (roundToExtent requested c.extentBytes)
        let v := { v with
          status := some status
          metadata := { v.metadata with resourceVersion := some s.versionText } }
        (.ok (), { s with volumes := s.volumes.insert name v })

/-! ### Calls -/

/-- The request with the stored status. -/
def keepClassStatus (stored request : LocalClass) : LocalClass := { request with status := stored.status }

/-- What is stored with the status of the request. -/
def takeClassStatus (stored request : LocalClass) : LocalClass := { stored with status := request.status }

/-- Whether a replacement asks for another size. -/
def isResized (m : NameMap LogicalVolume) (v : LogicalVolume) : Bool :=
  match m.get? (Resource.key v) with
  | none => false
  | some stored => stored.spec.size != v.spec.size

/-- The request with the stored status, whose phase tells of another size that is asked for. -/
def keepVolumeStatus (resized : Bool) (stored request : LogicalVolume) : LogicalVolume :=
  { request with
    status := stored.status.map (fun st => if resized then { st with phase := some .resizing } else st) }

/-- The answer to a call, and the cluster after it. -/
def answer (s : Cluster) : (c : Call) → c.Result × Cluster
  | .listStorageClasses =>
    attempt .listStorageClasses s (fun s => (.ok s.storageClasses.values, s))
  | .getStorageClass name => (.ok (s.storageClasses.get? name), s)
  | .createStorageClass c =>
    write (.createStorageClass (Resource.key c)) s (fun s => do
      let (c, m) ← createObject StorageClass.kind s.storageClasses c s.versionText
      .ok (c, { s with storageClasses := m }))
  | .replaceStorageClass c =>
    write (.replaceStorageClass (Resource.key c)) s (fun s => do
      let (c, m) ← replaceObject StorageClass.kind s.storageClasses c s.versionText (fun _ r => r)
      .ok (c, { s with storageClasses := m }))
  | .deleteStorageClass name =>
    write (.deleteStorageClass name) s (fun s =>
      .ok ((), { s with storageClasses := markDeleted s.storageClasses name s.versionText s.now }))
  | .listLocalClasses => (.ok s.localClasses.values, s)
  | .getLocalClass name => (.ok (s.localClasses.get? name), s)
  | .replaceLocalClass c =>
    write (.replaceLocalClass (Resource.key c)) s (fun s => do
      let (c, m) ← replaceObject LocalClass.kind s.localClasses c s.versionText keepClassStatus
      .ok (c, { s with localClasses := m }))
  | .replaceLocalClassStatus c =>
    write (.replaceLocalClassStatus (Resource.key c)) s (fun s => do
      let (c, m) ← replaceObject LocalClass.kind s.localClasses c s.versionText takeClassStatus
      .ok (c, { s with localClasses := m }))
  | .listVolumeGroups => attempt .listVolumeGroups s (fun s => (.ok s.groups.values, s))
  | .getVolumeGroup name => (.ok (s.groups.get? name), s)
  | .createVolume v =>
    write (.createVolume (Resource.key v)) s (fun s => do
      let (v, m) ← createObject LogicalVolume.kind s.volumes v s.versionText
      .ok (v, { s with volumes := m, polls := s.polls.erase (Resource.key v) }))
  | .getVolume name =>
    attempt (.getVolume name) s (fun s =>
      match s.volumes.get? name with
      | none => (.ok none, s)
      | some v =>
        match pollVolume name v s with
        | (.error e, s) => (.error e, s)
        | (.ok (), s) => (.ok (s.volumes.get? name), s))
  | .replaceVolume v =>
    write (.replaceVolume (Resource.key v)) s (fun s => do
      let resized := isResized s.volumes v
      let (stored, m) ←
        replaceObject LogicalVolume.kind s.volumes v s.versionText (keepVolumeStatus resized)
      .ok (stored, { s with
        volumes := m, polls := if resized then s.polls.erase (Resource.key v) else s.polls }))
  | .deleteVolume name =>
    write (.deleteVolume name) s (fun s =>
      .ok ((), { s with
        volumes := markDeleted s.volumes name s.versionText s.now, polls := s.polls.erase name }))

/-! ### Other actors -/

/-- What others do to a cluster: its users, the nodes, and whoever plans failures. -/
inductive Intervention
  | putStorageClass (c : StorageClass)
  | putLocalClass (c : LocalClass)
  | putVolumeGroup (g : VolumeGroup)
  | putVolume (v : LogicalVolume)
  /-- The owner of a local class deletes it. -/
  | deleteLocalClass (name : String)
  /-- A node reports on a volume. -/
  | reportVolume (name : String) (status : VolumeStatus)
  | setConvergence (c : Option Convergence)
  | planFailure (op : Operation) (e : Fault)
  /-- Time passes. -/
  | setTime (now : Timestamp)

/-- The cluster after an intervention. -/
def intervene (s : Cluster) : Intervention → Cluster
  | .putStorageClass c =>
    let s := s.bump
    { s with storageClasses := putObject s.storageClasses c s.versionText }
  | .putLocalClass c =>
    let s := s.bump
    { s with localClasses := putObject s.localClasses c s.versionText }
  | .putVolumeGroup g =>
    let s := s.bump
    { s with groups := putObject s.groups g s.versionText }
  | .putVolume v =>
    let s := s.bump
    { s with volumes := putObject s.volumes v s.versionText }
  | .deleteLocalClass name =>
    let s := s.bump
    { s with localClasses := markDeleted s.localClasses name s.versionText s.now }
  | .reportVolume name status =>
    let s := s.bump
    match s.volumes.get? name with
    | none => s
    | some v =>
      let v := { v with
        status := some status
        metadata := { v.metadata with resourceVersion := some s.versionText } }
      { s with volumes := s.volumes.insert name v }
  | .setConvergence c => { s with convergence := c }
  | .planFailure op e => { s with failures := s.failures ++ [(op, e)] }
  | .setTime now => { s with now }

end Cluster

end LocalVolumes
