import LocalVolumes.Proofs.Cluster.Frame
import LocalVolumes.Proofs.Decision

/-!
# LocalVolumes.Proofs.Treatment — what a pass does to its class

A pass holds a copy of its class.  Whatever it does besides, a write of the class is always one of that copy: it records
success or a failure and ends with it, it puts the finalizer on the class and goes on with what is stored then, or it
takes the finalizers off and ends.  `Treats` says so once for all flows, and what passes do to their classes is proved
by induction on it.
-/

namespace LocalVolumes

open Pass

/-- What is left of a pass that holds a copy of its class. -/
inductive Treats : LocalClass → Routine (Except Fault Outcome) → Prop
  | ends (c : LocalClass) (o : Outcome) : Treats c (.done (.ok o))
  | succeeds (c : LocalClass) : Treats c (succeed c)
  | abandons (c : LocalClass) (e : Fault) : Treats c (abandon c e)
  /-- The pass makes a call that leaves the local classes alone. -/
  | aside {c : LocalClass} {call : Call} {f : call.Result → Routine (Except Fault Outcome)} :
    ¬ call.WritesLocalClass → (∀ r, Treats c (f r)) → Treats c ((Routine.call call).bind f)
  /-- The pass puts the finalizer on the class.  If it cannot, it ends at once. -/
  | marks {c : LocalClass} {f : Except Fault LocalClass → Routine (Except Fault Outcome)} :
    (∀ e, f (.error e) = .done (.error e)) → (∀ stored, Treats stored (f (.ok stored))) →
      Treats c ((Routine.call (.replaceLocalClass c.addFinalizer.1)).bind f)
  /-- The pass takes the finalizers off the class, if it has any. -/
  | lets {c : LocalClass} {f : Except Fault LocalClass → Routine (Except Fault Outcome)} :
    c.removeFinalizer.2 = true → (∀ stored, f (.ok stored) = .done (.ok .done)) →
      (∀ e, Treats c.removeFinalizer.1 (f (.error e))) →
      Treats c ((Routine.call (.replaceLocalClass c.removeFinalizer.1)).bind f)

namespace Treats

variable {c : LocalClass} {classes : List StorageClass}

theorem createClass (name : String) : Treats c (createClass name c classes) := by
  refine .aside id fun r => ?_
  cases r with
  | error e => exact .abandons c _
  | ok inventory =>
    dsimp only
    split
    · exact .abandons c _
    · split
      · exact .ends c .again
      · refine .aside id fun r => ?_
        cases r with
        | ok _ => exact .succeeds c
        | error e =>
          dsimp only
          split
          · exact .ends c .again
          · exact .abandons c e

theorem create : Treats c (create c classes) := by
  unfold Pass.create
  split
  · next marked hmarked =>
    obtain rfl : c.addFinalizer.1 = marked := by rw [hmarked]
    refine .marks (fun e => rfl) fun stored => ?_
    exact createClass c.name
  · exact createClass c.name

/-- A storage class is taken away, whatever comes of it. -/
theorem deleteClass {current : StorageClass} {f : Except Fault Unit → Routine (Except Fault Outcome)}
    (hf : ∀ r, Treats c (f r)) : Treats c ((deleteClass current).bind f) := by
  unfold Pass.deleteClass
  dsimp only
  split
  · exact hf _
  · split
    · refine .aside id fun r => ?_
      cases r with
      | error e => exact hf _
      | ok _ => exact .aside id hf
    · exact .aside id hf

/-- A storage class gives way to another one, whatever comes of it. -/
theorem recreate {current sc : StorageClass} {f : Except Fault Unit → Routine (Except Fault Outcome)}
    (hf : ∀ r, Treats c (f r)) : Treats c ((recreate current sc).bind f) := by
  unfold Pass.recreate
  -- the first half of the work is brought to the front, to be followed by the rest of the pass
  rw [show (Pass.deleteClass current >>= _) = (Pass.deleteClass current).bind _ from rfl, Routine.bind_assoc]
  refine deleteClass fun r => ?_
  cases r with
  | error e => exact hf _
  | ok u =>
    refine .aside id fun r => ?_
    cases r <;> exact hf _

theorem update : Treats c (update c classes) := by
  refine .aside id fun r => ?_
  cases r with
  | error e => exact .abandons c _
  | ok inventory =>
    dsimp only
    split
    · exact .abandons c _
    · exact .succeeds c
    · refine recreate fun r => ?_
      cases r with
      | error e => exact .abandons c e
      | ok u => exact .succeeds c

theorem release : Treats c (release c) := by
  unfold Pass.release
  split
  · next released hreleased =>
    obtain ⟨rfl, hany⟩ : c.removeFinalizer.1 = released ∧ c.removeFinalizer.2 = true := by
      rw [hreleased]
      exact ⟨rfl, rfl⟩
    exact .lets hany (fun stored => rfl) fun e => .abandons _ _
  · exact .ends c .done

theorem delete : Treats c (delete c classes) := by
  unfold Pass.delete
  split
  · exact release
  · split
    · exact release
    · refine deleteClass fun r => ?_
      cases r with
      | ok u => exact release
      | error e => exact .abandons c _

/-- **Every flow treats the class in one of these ways.** -/
theorem run (flow : Flow) : Treats c (run c classes flow) := by
  cases flow with
  | create => exact create
  | update => exact update
  | delete => exact delete
  | nothing => exact .ends c .done

end Treats

end LocalVolumes
