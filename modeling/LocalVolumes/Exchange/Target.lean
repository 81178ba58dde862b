import LocalVolumes.LogicalVolume
import LocalVolumes.StorageClass

/-!
# LocalVolumes.Exchange.Target — what a request is about

The objects of one kind are a collection.  A request is about a collection, about one of its objects, or about the
status of one; its path says which.
-/

namespace LocalVolumes

/-- The objects of one kind. -/
inductive Collection
  | storageClasses
  | localClasses
  | volumeGroups
  | volumes
  deriving DecidableEq, Repr

namespace Collection

/-- The word of a collection. -/
def word : Collection → String
  | .storageClasses => "storageclasses"
  | .localClasses => "localstorageclasses"
  | .volumeGroups => "lvmvolumegroups"
  | .volumes => "lvmlogicalvolumes"

/-- The version of the format of its objects. -/
def apiVersion : Collection → String
  | .storageClasses => StorageClass.apiVersion
  | _ => LocalClass.apiVersion

/-- The kind of its objects. -/
def kind : Collection → String
  | .storageClasses => StorageClass.kind
  | .localClasses => LocalClass.kind
  | .volumeGroups => VolumeGroup.kind
  | .volumes => LogicalVolume.kind

/-- The path of a collection. -/
def path (c : Collection) : String := "/apis/" ++ c.apiVersion ++ "/" ++ c.word

/-- The collection of a version and a word. -/
def ofWord? (apiVersion word : String) : Option Collection :=
  [Collection.storageClasses, .localClasses, .volumeGroups, .volumes].find?
    (fun c => c.word == word && c.apiVersion == apiVersion)

end Collection

/-- What a request is about. -/
inductive Target
  | collection (c : Collection)
  | object (c : Collection) (name : String)
  | status (c : Collection) (name : String)
  deriving DecidableEq, Repr

namespace Target

/-- The path of a target. -/
def path : Target → String
  | .collection c => c.path
  | .object c name => c.path ++ "/" ++ name
  | .status c name => c.path ++ "/" ++ name ++ "/status"

/-- A target without the version of its collection. -/
def label : Target → String
  | .collection c => c.word
  | .object c name => c.word ++ "/" ++ name
  | .status c name => c.word ++ "/" ++ name ++ "/status"

/-- The name of the object. -/
def name? : Target → Option String
  | .collection _ => none
  | .object _ name => some name
  | .status _ name => some name

/-- The target of a path; what follows a question mark does not count. -/
def ofPath? (s : String) : Option Target :=
  match (String.ofList (s.toList.takeWhile (· != '?'))).splitOn "/" with
  | ["", "apis", group, version, word] =>
    (Collection.ofWord? (group ++ "/" ++ version) word).map .collection
  | ["", "apis", group, version, word, name] =>
    (Collection.ofWord? (group ++ "/" ++ version) word).map (.object · name)
  | ["", "apis", group, version, word, name, "status"] =>
    (Collection.ofWord? (group ++ "/" ++ version) word).map (.status · name)
  | _ => none

end Target

end LocalVolumes
