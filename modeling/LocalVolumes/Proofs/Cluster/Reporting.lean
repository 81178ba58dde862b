import LocalVolumes.Proofs.Cluster.Undisturbed
import LocalVolumes.Proofs.Cluster.Volumes
import LocalVolumes.Proofs.Interference

/-!
# LocalVolumes.Proofs.Cluster.Reporting — what nodes report, and what is declared

A node reports on a volume by its status, and every report gives the volume another version.  All else about a volume
is declared.  `Confined` says of two states of a cluster that they differ in the volumes of some names and in reports
only, `OnlyReports` that they differ in nothing but reports.
-/

namespace LocalVolumes

/-- A volume without its status and its version. -/
def LogicalVolume.declared (v : LogicalVolume) : LogicalVolume :=
  { v with status := none, metadata := { v.metadata with resourceVersion := none } }

namespace Cluster

/-- Two states differ in no object but the volumes of some names, and in what is reported on some volumes. -/
structure Confined (but on : String → Prop) (s s' : Cluster) : Prop where
  storageClasses : s'.storageClasses = s.storageClasses
  localClasses : s'.localClasses = s.localClasses
  groups : s'.groups = s.groups
  declared (n : String) : ¬ but n →
    (s'.volumes.get? n).map LogicalVolume.declared = (s.volumes.get? n).map LogicalVolume.declared
  unreported (n : String) : ¬ but n → ¬ on n → s'.volumes.get? n = s.volumes.get? n

/-- Two states differ in what is reported on some volumes, and nothing was written meanwhile. -/
structure OnlyReports (on : String → Prop) (s s' : Cluster) : Prop extends Confined (fun _ => False) on s s' where
  journal : s'.journal = s.journal

variable {but on : String → Prop} {s s' s'' : Cluster} {n : String}

/-! ### Confinement -/

theorem Confined.refl (but on : String → Prop) (s : Cluster) : Confined but on s s :=
  ⟨rfl, rfl, rfl, fun _ _ => rfl, fun _ _ _ => rfl⟩

theorem Confined.trans (h : Confined but on s s') (h' : Confined but on s' s'') : Confined but on s s'' :=
  ⟨h'.storageClasses.trans h.storageClasses, h'.localClasses.trans h.localClasses, h'.groups.trans h.groups,
    fun n hb => (h'.declared n hb).trans (h.declared n hb),
    fun n hb ho => (h'.unreported n hb ho).trans (h.unreported n hb ho)⟩

/-- What touches the table of the volumes only, and there one name. -/
theorem Confined.of_volumes (hs : s'.storageClasses = s.storageClasses) (hl : s'.localClasses = s.localClasses)
    (hg : s'.groups = s.groups) (hne : ∀ k, k ≠ n → s'.volumes.get? k = s.volumes.get? k) :
    Confined (· = n) on s s' :=
  ⟨hs, hl, hg, fun k hk => by rw [hne k hk], fun k hk _ => hne k hk⟩

/-- It does not matter what is reported on a volume that may differ anyway. -/
theorem Confined.narrow (h : Confined (· = n) (fun k => on k ∨ k = n) s s') : Confined (· = n) on s s' :=
  ⟨h.storageClasses, h.localClasses, h.groups, h.declared,
    fun k hk ho => h.unreported k hk fun h => h.elim ho hk⟩

/-! ### Reports -/

theorem OnlyReports.refl (on : String → Prop) (s : Cluster) : OnlyReports on s s := ⟨.refl _ _ s, rfl⟩

theorem OnlyReports.trans (h : OnlyReports on s s') (h' : OnlyReports on s' s'') : OnlyReports on s s'' :=
  ⟨h.toConfined.trans h'.toConfined, h'.journal.trans h.journal⟩

theorem OnlyReports.mono {on' : String → Prop} (h : OnlyReports on s s') (ho : ∀ n, on n → on' n) :
    OnlyReports on' s s' :=
  ⟨⟨h.storageClasses, h.localClasses, h.groups, h.declared, fun n hb hn => h.unreported n hb fun h => hn (ho n h)⟩,
    h.journal⟩

theorem OnlyReports.confined (h : OnlyReports on s s') : Confined but on s s' :=
  ⟨h.storageClasses, h.localClasses, h.groups, fun k _ => h.declared k id, fun k _ ho => h.unreported k id ho⟩

theorem OnlyReports.get?_eq_none_iff (h : OnlyReports on s s') :
    s'.volumes.get? n = none ↔ s.volumes.get? n = none := by
  rw [← Option.map_eq_none_iff (f := LogicalVolume.declared), h.declared n id, Option.map_eq_none_iff]

theorem OnlyReports.stored_iff (h : OnlyReports on s s') : Stored n s' ↔ Stored n s := by
  simp only [Stored, ← Option.ne_none_iff_exists', ne_eq, h.get?_eq_none_iff]

/-- A volume that is there was there before, as it is declared. -/
theorem OnlyReports.exists_declared (h : OnlyReports on s s') {v : LogicalVolume} (hv : s'.volumes.get? n = some v) :
    ∃ w, s.volumes.get? n = some w ∧ w.declared = v.declared := by
  have hd := h.declared n id
  rw [hv, Option.map_some] at hd
  exact Option.map_eq_some_iff.1 hd.symm

theorem OnlyReports.of_rests (h : s.Rests s') : OnlyReports on s s' := by
  obtain ⟨v, fs, -, rfl⟩ := h
  exact ⟨⟨rfl, rfl, rfl, fun _ _ => rfl, fun _ _ _ => rfl⟩, rfl⟩

/-- A report on a volume, at most. -/
theorem OnlyReports.of_reported {v : LogicalVolume} {vols : NameMap LogicalVolume} {version : Nat} {ps : NameMap Nat}
    {c : Option Convergence} (hn : on n) (hv : s.volumes.get? n = some v)
    (hvols : vols = s.volumes ∨ ∃ status, vols = s.volumes.insert n (reported v status s.nextVersion)) :
    OnlyReports on s { s with version, volumes := vols, polls := ps, convergence := c } := by
  rcases hvols with rfl | ⟨status, rfl⟩
  · exact ⟨⟨rfl, rfl, rfl, fun _ _ => rfl, fun _ _ _ => rfl⟩, rfl⟩
  · refine ⟨⟨rfl, rfl, rfl, fun k _ => ?_, fun k _ hk => ?_⟩, rfl⟩
    · by_cases hkn : k = n
      · subst hkn
        simp only [NameMap.get?_insert, if_true, hv, Option.map_some]
        rfl
      · simp only [NameMap.get?_insert, hkn, if_false]
    · have hkn : k ≠ n := fun he => hk (he ▸ hn)
      simp only [NameMap.get?_insert, hkn, if_false]

theorem Serves.onlyReports_listVolumeGroups {r : Except Fault (List VolumeGroup)}
    (hs : s.Serves .listVolumeGroups r s') : OnlyReports on s s' := by
  rcases hs.listVolumeGroups with hf | ⟨-, rfl⟩
  · exact .of_rests hf.2
  · exact .refl on _

theorem Serves.onlyReports_getVolume {r : Except Fault (Option LogicalVolume)} (hn : on n)
    (hs : s.Serves (.getVolume n) r s') : OnlyReports on s s' := by
  rcases hs.getVolume with hf | ⟨-, -, rfl⟩ | ⟨v, ver, vols, ps, hv, rfl, -, -, hvols⟩
  · exact .of_rests hf.2
  · exact .refl on _
  · exact .of_reported hn hv (hvols.imp_right fun ⟨status, he, _⟩ => ⟨status, he⟩)

/-- Without planned failures a look at a volume fails only if it cannot be told how large the volume is to be. -/
theorem answer_getVolume (hs : s.failures = [])
    (hb : ∀ v, s.volumes.get? n = some v → ∃ b, v.requestedBytes = .ok b) :
    ∃ found, (s.answer (.getVolume n)).1 = .ok found := by
  rw [answer, attempt_eq hs]
  cases hv : s.volumes.get? n with
  | none => exact ⟨none, rfl⟩
  | some v =>
    obtain ⟨b, hb⟩ := hb v hv
    have hpoll : (pollVolume n v s).1 = .ok () := by
      unfold pollVolume
      split
      · rfl
      · dsimp only
        split
        · rfl
        · simp only [hb]
    dsimp only
    generalize pollVolume n v s = p at hpoll ⊢
    obtain ⟨polled, s'⟩ := p
    obtain rfl : polled = .ok () := hpoll
    exact ⟨_, rfl⟩

end Cluster

open Cluster

/-- What the nodes do is to report. -/
theorem Reports.onlyReports {s s' : Cluster} (h : Reports s s') : OnlyReports (fun _ => True) s s' := by
  cases h with
  | report n status =>
    cases hv : s.volumes.get? n with
    | none =>
      have he : s.intervene (.reportVolume n status) = s.bump := by simp [intervene, bump, hv]
      exact he ▸ .of_rests ⟨s.version + 1, s.failures, Nat.le_succ _, rfl⟩
    | some v =>
      have he : s.intervene (.reportVolume n status) =
          { s.bump with volumes := s.volumes.insert n (reported v status s.nextVersion) } := by
        simp [intervene, bump, hv, reported, nextVersion]
      exact he ▸ .of_reported trivial hv (.inr ⟨status, rfl⟩)
  | setConvergence c => exact ⟨⟨rfl, rfl, rfl, fun _ _ => rfl, fun _ _ _ => rfl⟩, rfl⟩

/-- Others report on some volumes. -/
def reporting (on : String → Prop) : Rely where
  may := OnlyReports on
  refl := .refl on
  trans := .trans

end LocalVolumes
