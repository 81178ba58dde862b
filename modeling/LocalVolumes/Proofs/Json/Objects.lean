import LocalVolumes.LogicalVolume
import LocalVolumes.Proofs.Json.Metadata
import LocalVolumes.Proofs.Parameters
import Mathlib.Logic.Equiv.Defs

/-!
# LocalVolumes.Proofs.Json.Objects — objects that are read as they were written

Objects are read, changed and written back by several parties, so what one of them writes of an object has to be all
that it has read of it.  Every part of a local class, of a volume group and of a logical volume is read back from what
is written of it, and with the parts the object.
-/

namespace LocalVolumes

open Json Json.Draft

/-! ### Words and sizes -/

theorem ReclaimPolicy.ofWord?_word (p : ReclaimPolicy) : ofWord? p.word = some p := by
  cases p <;> rfl

theorem ClassPhase.ofWord?_word (p : ClassPhase) : ofWord? p.word = some p := by
  cases p <;> rfl

theorem VolumePhase.ofWord_word (p : VolumePhase) : ofWord p.word = p := by
  cases p <;> rfl

theorem ClassPhase.readsBack (p : ClassPhase) :
    ReadsBack (fun p => .string (word p)) (fun d => d.word?.bind ofWord?) p := readsBack_word p.ofWord?_word

theorem VolumePhase.readsBack (p : VolumePhase) :
    ReadsBack (fun p => .string (word p)) (fun d => d.word?.map ofWord) p :=
  ⟨nofun, congrArg some p.ofWord_word⟩

theorem Quantity.readsBack (q : Quantity) : ReadsBack toJson ofDraft? q := ⟨nofun, rfl⟩

@[simp] theorem optional?_quantity (x : Option Quantity) :
    optional? Quantity.ofDraft? (x.map (ofJson ∘ Quantity.toJson)) = some x :=
  optional?_written fun q _ => q.readsBack

/-! ### Parts of local classes -/

theorem LabelExpression.readsBack (e : LabelExpression) : ReadsBack toJson ofDraft? e := by
  refine ⟨nofun, ?_⟩
  have hvalues : optional? (items? text?) (e.values.map (ofJson ∘ Json.strings)) = some e.values :=
    optional?_written fun _ _ => readsBack_items fun s _ => readsBack_text s
  simp [toJson, ofDraft?, List.lookup_cons, hvalues]

theorem LabelSelector.readsBack (s : LabelSelector) : ReadsBack toJson ofDraft? s := by
  refine ⟨nofun, ?_⟩
  have hexpressions : optional? (items? LabelExpression.ofDraft?)
      (s.matchExpressions.map (ofJson ∘ fun es => .array (es.map (·.toJson)))) = some s.matchExpressions :=
    optional?_written fun _ _ => readsBack_items fun e _ => e.readsBack
  simp [toJson, ofDraft?, List.lookup_cons, hexpressions]

theorem ThinPoolRef.readsBack (t : ThinPoolRef) : ReadsBack toJson ofDraft? t := by
  refine ⟨nofun, ?_⟩
  have hobject : t.toJson = objectOf [("poolName", some (.string t.poolName))] := rfl
  simp [hobject, ofDraft?]

@[simp] theorem optional?_thinPoolRef (x : Option ThinPoolRef) :
    optional? ThinPoolRef.ofDraft? (x.map (ofJson ∘ ThinPoolRef.toJson)) = some x :=
  optional?_written fun t _ => t.readsBack

theorem GroupRef.readsBack (g : GroupRef) : ReadsBack toJson ofDraft? g := by
  refine ⟨nofun, ?_⟩
  simp [toJson, ofDraft?, List.lookup_cons]

theorem ThickSettings.readsBack (t : ThickSettings) : ReadsBack toJson ofDraft? t := by
  refine ⟨nofun, ?_⟩
  have hobject : t.toJson = objectOf [("contiguous", some (.bool t.contiguous))] := rfl
  have hcontiguous : withDefault? false bool? (some (ofJson (.bool t.contiguous))) = some t.contiguous := rfl
  simp [hobject, ofDraft?, hcontiguous]

@[simp] theorem optional?_thickSettings (x : Option ThickSettings) :
    optional? ThickSettings.ofDraft? (x.map (ofJson ∘ ThickSettings.toJson)) = some x :=
  optional?_written fun t _ => t.readsBack

theorem LvmSpec.readsBack (s : LvmSpec) : ReadsBack toJson ofDraft? s := by
  refine ⟨nofun, ?_⟩
  have hgroups : withDefault? [] (items? GroupRef.ofDraft?) (some (ofJson (.array (s.groups.map GroupRef.toJson)))) =
      some s.groups := (readsBack_items fun g _ => g.readsBack).back
  have hselector : optional? LabelSelector.ofDraft? (s.selector.map (ofJson ∘ LabelSelector.toJson)) =
      some s.selector := optional?_written fun l _ => l.readsBack
  simp [toJson, ofDraft?, List.lookup_cons, LvmType.ofWord?_word, hgroups, hselector]

theorem LocalClassSpec.readsBack (s : LocalClassSpec) : ReadsBack toJson ofDraft? s := by
  refine ⟨nofun, ?_⟩
  have hlvm : optional? LvmSpec.ofDraft? (s.lvm.map (ofJson ∘ LvmSpec.toJson)) = some s.lvm :=
    optional?_written fun l _ => l.readsBack
  simp [toJson, ofDraft?, List.lookup_cons, ReclaimPolicy.ofWord?_word, BindingMode.ofWord?_word, hlvm]

/-- The phase of a class that no pass has ended for is written as the empty text, which is not the same as none. -/
theorem ClassStatus.readsBack (s : ClassStatus) : ReadsBack toJson ofDraft? s := by
  refine ⟨nofun, ?_⟩
  have hphase : optional? (fun d => d.word?.bind ClassPhase.ofWord?) (s.phase.map (ofJson ∘ fun p => .string p.word)) =
      some s.phase := optional?_written fun p _ => p.readsBack
  simp [toJson, ofDraft?, List.lookup_cons, hphase]

/-! ### Parts of volume groups -/

theorem GroupNode.readsBack (n : GroupNode) : ReadsBack toJson ofDraft? n := by
  refine ⟨nofun, ?_⟩
  have hobject : n.toJson = objectOf [("name", some (.string n.name))] := rfl
  simp [hobject, ofDraft?]

theorem ThinPool.readsBack (p : ThinPool) : ReadsBack toJson ofDraft? p := by
  refine ⟨nofun, ?_⟩
  simp [toJson, ofDraft?, List.lookup_cons]

theorem GroupStatus.readsBack (s : GroupStatus) : ReadsBack toJson ofDraft? s := by
  refine ⟨nofun, ?_⟩
  have hnodes : withDefault? [] (items? GroupNode.ofDraft?) (some (ofJson (.array (s.nodes.map GroupNode.toJson)))) =
      some s.nodes := (readsBack_items fun n _ => n.readsBack).back
  have hpools : withDefault? [] (items? ThinPool.ofDraft?) (some (ofJson (.array (s.thinPools.map ThinPool.toJson)))) =
      some s.thinPools := (readsBack_items fun p _ => p.readsBack).back
  simp [toJson, ofDraft?, List.lookup_cons, hnodes, hpools]

theorem GroupSpec.readsBack (s : GroupSpec) : ReadsBack toJson ofDraft? s := by
  refine ⟨nofun, ?_⟩
  have hobject : s.toJson = objectOf [("actualVGNameOnTheNode", some (.string s.actualName))] := rfl
  have hname : withDefault? "" text? (some (ofJson (.string s.actualName))) = some s.actualName := rfl
  simp [hobject, ofDraft?, hname]

/-! ### Parts of logical volumes -/

/-- A phase that is not known was read as such from another word; what is written of it is a word of its own. -/
theorem VolumeStatus.readsBack (s : VolumeStatus) : ReadsBack toJson ofDraft? s := by
  refine ⟨nofun, ?_⟩
  have hphase : optional? (fun d => d.word?.map VolumePhase.ofWord) (s.phase.map (ofJson ∘ fun p => .string p.word)) =
      some s.phase := optional?_written fun p _ => p.readsBack
  simp [toJson, ofDraft?, List.lookup_cons, hphase]

theorem VolumeSpec.readsBack (s : VolumeSpec) : ReadsBack toJson ofDraft? s := by
  refine ⟨nofun, ?_⟩
  simp [toJson, ofDraft?, List.lookup_cons, LvmType.ofWord?_word, s.size.readsBack.back]

/-! ### Objects -/

/-- **Objects of a kind survive being written.**  What is written of an object whose metadata fits is read as that
object, with all that is absent, empty or present in it.  An object that was read, from whatever draft, is read again
from what is written of it, and writing it again changes nothing. -/
structure Survives {α : Type} [Resource α] (write : α → Json) (read : Draft → Option α) : Prop where
  back : ∀ a, (Resource.metadata a).Fits → read (.ofJson (write a)) = some a
  again : ∀ d a, read d = some a →
    read (.ofJson (write a)) = some a ∧ (read (.ofJson (write a))).map write = some (write a)

section Declared

variable {σ τ : Type} {writeSpec : σ → Json} {readSpec : Draft → Option σ} {writeStatus : τ → Json}
  {readStatus : Draft → Option τ}

/-- The parts of an object as JSON, with the version of the format and the kind of the object. -/
def Declared.toJson (apiVersion kind : String) (writeSpec : σ → Json) (writeStatus : τ → Json) (p : Declared σ τ) :
    Json :=
  Json.objectOf [
    ("apiVersion", some (.string apiVersion)),
    ("kind", some (.string kind)),
    ("metadata", some p.metadata.toJson),
    ("spec", some (writeSpec p.spec)),
    ("status", p.status.map writeStatus)]

/-- An object is read back with its parts, whatever version and kind it is written with. -/
theorem Declared.ofDraft?_toJson (apiVersion kind : String) {p : Declared σ τ} (hp : p.metadata.Fits)
    (hspec : ∀ s, ReadsBack writeSpec readSpec s) (hstatus : ∀ s, ReadsBack writeStatus readStatus s) :
    Declared.ofDraft? readSpec readStatus (.ofJson (p.toJson apiVersion kind writeSpec writeStatus)) = some p := by
  have hreport : optional? readStatus (p.status.map (ofJson ∘ writeStatus)) = some p.status :=
    optional?_written fun s _ => hstatus s
  simp [Declared.toJson, Declared.ofDraft?, List.lookup_cons, (Metadata.readsBack hp).back, (hspec p.spec).back,
    hreport]

theorem Declared.fits_of_ofDraft? {d : Draft} {a : Declared σ τ}
    (h : Declared.ofDraft? readSpec readStatus d = some a) : a.metadata.Fits := by
  simp only [Declared.ofDraft?, bind_eq_some_iff, Option.pure_def, Option.some.injEq] at h
  obtain ⟨_, -, _, -, m, hm, _, -, _, -, _, -, rfl⟩ := h
  exact Metadata.fits_of_ofDraft? hm

/-- Objects survive being written if they are no more than their parts, and the parts are read back. -/
theorem Survives.of_declared {α : Type} [Resource α] {write : α → Json} {read : Draft → Option α}
    (parts : α ≃ Declared σ τ) (hmetadata : ∀ a, Resource.metadata a = (parts a).metadata) (apiVersion kind : String)
    (hwrite : ∀ a, write a = (parts a).toJson apiVersion kind writeSpec writeStatus)
    (hread : ∀ d, read d = do return parts.symm (← Declared.ofDraft? readSpec readStatus d))
    (hspec : ∀ s, ReadsBack writeSpec readSpec s) (hstatus : ∀ s, ReadsBack writeStatus readStatus s) :
    Survives write read := by
  have hback (a : α) (ha : (Resource.metadata a).Fits) : read (.ofJson (write a)) = some a := by
    rw [hmetadata] at ha
    rw [hread, hwrite, Declared.ofDraft?_toJson apiVersion kind ha hspec hstatus, some_bind_eq]
    exact congrArg some (parts.symm_apply_apply a)
  refine ⟨hback, fun d a ha => ?_⟩
  -- the metadata was read, and so it fits
  obtain ⟨p, hp, hpa⟩ := bind_eq_some_iff.1 (hread d ▸ ha)
  obtain rfl := Option.some.inj hpa
  have hfits : (Resource.metadata (parts.symm p)).Fits := by
    rw [hmetadata, parts.apply_symm_apply]
    exact Declared.fits_of_ofDraft? hp
  exact ⟨hback _ hfits, congrArg (Option.map write) (hback _ hfits)⟩

end Declared

/-- A local class is its parts. -/
def LocalClass.parts : LocalClass ≃ Declared LocalClassSpec ClassStatus :=
  ⟨fun c => ⟨c.metadata, c.spec, c.status⟩, fun p => ⟨p.metadata, p.spec, p.status⟩, fun _ => rfl, fun _ => rfl⟩

/-- A volume group is its parts. -/
def VolumeGroup.parts : VolumeGroup ≃ Declared GroupSpec GroupStatus :=
  ⟨fun g => ⟨g.metadata, g.spec, g.status⟩, fun p => ⟨p.metadata, p.spec, p.status⟩, fun _ => rfl, fun _ => rfl⟩

/-- A logical volume is its parts. -/
def LogicalVolume.parts : LogicalVolume ≃ Declared VolumeSpec VolumeStatus :=
  ⟨fun v => ⟨v.metadata, v.spec, v.status⟩, fun p => ⟨p.metadata, p.spec, p.status⟩, fun _ => rfl, fun _ => rfl⟩

theorem LocalClass.survives : Survives toJson ofDraft? :=
  .of_declared parts (fun _ => rfl) apiVersion kind (fun _ => rfl) (fun _ => rfl) LocalClassSpec.readsBack
    ClassStatus.readsBack

theorem VolumeGroup.survives : Survives toJson ofDraft? :=
  .of_declared parts (fun _ => rfl) LocalClass.apiVersion kind (fun _ => rfl) (fun _ => rfl) GroupSpec.readsBack
    GroupStatus.readsBack

theorem LogicalVolume.survives : Survives toJson ofDraft? :=
  .of_declared parts (fun _ => rfl) LocalClass.apiVersion kind (fun _ => rfl) (fun _ => rfl) VolumeSpec.readsBack
    VolumeStatus.readsBack

/-- **Local classes, volume groups and logical volumes survive being written.** -/
theorem objects_survive_json :
    Survives LocalClass.toJson LocalClass.ofDraft? ∧ Survives VolumeGroup.toJson VolumeGroup.ofDraft? ∧
      Survives LogicalVolume.toJson LogicalVolume.ofDraft? :=
  ⟨LocalClass.survives, VolumeGroup.survives, LogicalVolume.survives⟩

namespace Sample

/-- A local class that waits for its first pass, with labels and finalizers that are there but empty. -/
def waitingClass : LocalClass where
  metadata :=
    { name := some "fast", labels := some ∅, finalizers := some [], generation := some 3
      deletionTimestamp := some Timestamp.epoch }
  spec := ⟨.delete, .waitForFirstConsumer, some ⟨.thin, [⟨"vg-1", some ⟨"pool"⟩⟩], none, none, some "", none⟩, none⟩
  status := some ⟨some .pending, none⟩

/-- A report of a logical volume that is being cleaned, which is none of the phases that are told apart. -/
def cleaningReport : Draft :=
  .object [
    (some "spec", .object [
      (some "size", .string "1Gi"), (some "type", .string "Thick"), (some "thick", .object [] true),
      (some "thin", .null), (some "lvmVolumeGroupName", .string "vg-1"),
      (some "actualLVNameOnTheNode", .string "pvc-1")] true),
    (some "metadata", .object [(some "name", .string "pvc-1"), (some "annotations", .object [] true)] true),
    (some "status", .object [(some "phase", .string "Cleaning"), (some "reason", .string "")] true)] true

/-- The volume of that report. -/
def cleaningVolume : LogicalVolume where
  metadata := { name := some "pvc-1", annotations := some ∅ }
  spec := ⟨"pvc-1", .thick, ⟨"1Gi"⟩, "vg-1", none, some ⟨false⟩⟩
  status := some ⟨some .unknown, some "", none⟩

end Sample

/-- The class keeps its empty phase; the volume, whose phase was read as unknown, keeps that one. -/
theorem objects_survive_json_unlisted :
    LocalClass.ofDraft? (.ofJson Sample.waitingClass.toJson) = some Sample.waitingClass ∧
      LogicalVolume.ofDraft? Sample.cleaningReport = some Sample.cleaningVolume ∧
        LogicalVolume.ofDraft? (.ofJson Sample.cleaningVolume.toJson) = some Sample.cleaningVolume := by
  obtain ⟨hclass, -, hvolume⟩ := objects_survive_json
  have hgeneration : Metadata.IsInt64 3 := ⟨by decide, by decide⟩
  have hdeletion : Timestamp.epoch.IsValid := by decide
  have hsome {β : Type} {p : β → Prop} {b : β} (h : p b) : ∀ x ∈ some b, p x := fun _ hx => Option.some.inj hx ▸ h
  have hnone {β : Type} {p : β → Prop} : ∀ x ∈ none, p x := fun _ hx => nomatch hx
  have hfits : Sample.waitingClass.metadata.Fits := ⟨hsome hgeneration, hnone, hnone, hsome hdeletion, hnone⟩
  have hread : LogicalVolume.ofDraft? Sample.cleaningReport = some Sample.cleaningVolume := by decide +kernel
  exact ⟨hclass.back _ hfits, hread, (hvolume.again _ _ hread).1⟩

end LocalVolumes
