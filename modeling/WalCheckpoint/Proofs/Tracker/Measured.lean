import WalCheckpoint.Proofs.Metrics.Samples
import WalCheckpoint.Proofs.Tracker.Run

namespace WalCheckpoint.Tracker

open Time

/-! What each step adds to the measurements of its server, and what many steps come to. -/

def Operation.shownLsn? : Operation → Option Int
  | .update lsn _ _ _ _ => lsn
  | _ => none

def Operation.shownCommit? : Operation → Option Int
  | .update _ commitTime _ _ _ => commitTime.map DateTime.toMicros
  | .updateTimestamp commitMicros _ => commitMicros
  | _ => none

def Operation.isUpdate : Operation → Bool
  | .update .. => true
  | _ => false

def Operation.isTimestampUpdate : Operation → Bool
  | .updateTimestamp .. => true
  | _ => false

namespace Step

def server (s : Step) : String := s.outcome.tracker.source.server

def lsn? (s : Step) : Option Int := s.operation.shownLsn?

def commitMicros? (s : Step) : Option Int := s.operation.shownCommit?

def isUpdate (s : Step) : Bool := s.operation.isUpdate

def isTimestampUpdate (s : Step) : Bool := s.operation.isTimestampUpdate

/-- A load that goes through. -/
def isLoad (s : Step) : Bool :=
  match s.operation with
  | .load _ => s.outcome.failure.isNone
  | _ => false

/-- Whether a snapshot runs right after a start, an end or a load that goes through. -/
def settled? (s : Step) : Option Bool :=
  match s.operation with
  | .startSnapshot => some s.outcome.tracker.inSnapshot
  | .completeSnapshot => some s.outcome.tracker.inSnapshot
  | .load _ => if s.outcome.failure.isNone then some s.outcome.tracker.inSnapshot else none
  | _ => none

structure FitsGauges (s : Step) : Prop where
  lsn : ∀ n ∈ s.lsn?, Metrics.FitsInt64 n
  commitMicros : ∀ n ∈ s.commitMicros?, Metrics.FitsInt64 n

instance (s : Step) : Decidable s.FitsGauges :=
  decidable_of_iff ((∀ n ∈ s.lsn?, Metrics.FitsInt64 n) ∧ ∀ n ∈ s.commitMicros?, Metrics.FitsInt64 n)
    ⟨fun ⟨lsn, commitMicros⟩ => ⟨lsn, commitMicros⟩, fun fits => ⟨fits.lsn, fits.commitMicros⟩⟩

/-- The measurements of a server with those of one step more. -/
def addTo (s : Step) (measured : ServerMetrics) : ServerMetrics where
  lsn := (s.lsn?.map (Binary64.ofSignedRatio · 1)).or measured.lsn
  commitSeconds := (s.commitMicros?.map
    (Binary64.ofSignedRatio · Metrics.microsPerSecond)).or measured.commitSeconds
  snapshotInEffect := s.settled?.or measured.snapshotInEffect
  positionUpdates := measured.positionUpdates + s.isUpdate.toNat
  timestampUpdates := measured.timestampUpdates + s.isTimestampUpdate.toNat
  checkpointsLoaded := measured.checkpointsLoaded + s.isLoad.toNat

end Step

section Step

variable {m : Metrics} {t : Tracker} {operation : Operation}

@[simp] theorem step_server : (step m t operation).server = t.source.server := by
  rw [Step.server, step, apply_tracker, after_source]

/-- Only steps that settle whether a snapshot runs change it. -/
theorem settled?_getD :
    (step m t operation).settled?.getD t.inSnapshot = (t.after operation).inSnapshot := by
  cases operation with
  | load stored =>
      cases found : Offset.read stored <;>
        simp [Step.settled?, step, apply, load, after, found]
  | update lsn commitTime txId table xmin => simp [Step.settled?, after]
  | updateTimestamp commitMicros table => simp [Step.settled?, after]
  | startSnapshot => rfl
  | markLastRecord => rfl
  | completeSnapshot => rfl

theorem distinct_apply (distinct : m.Distinct) : (t.apply m operation).metrics.Distinct := by
  cases operation with
  | load stored =>
      rw [apply, load]
      cases Offset.read stored with
      | error error => exact distinct
      | ok offset => exact (distinct.modify ..).modify ..
  | update lsn commitTime txId table xmin =>
      rw [apply, (t.update_recorded ..).1]
      exact distinct.recordPosition ..
  | updateTimestamp commitMicros table =>
      rw [apply, (t.updateTimestamp_recorded ..).1]
      exact distinct.recordTimestamp ..
  | startSnapshot => exact distinct.modify ..
  | markLastRecord => exact distinct
  | completeSnapshot => exact distinct.modify ..

/-- One step is measured with the server of its tracker, and no other server is touched. -/
theorem ofServer_apply (fits : (step m t operation).FitsGauges) (server : String) :
    (t.apply m operation).metrics.ofServer server =
      if server = t.source.server then (step m t operation).addTo (m.ofServer server)
      else m.ofServer server := by
  cases operation with
  | load stored =>
      cases found : Offset.read stored with
      | error error =>
          simp only [apply, load, found, step]
          split
          · rfl
          · rfl
      | ok offset =>
          simp only [apply, load, found, step]
          refine (m.ofServer_loaded t.source.server _ server).trans ?_
          split
          · next same => subst same; rfl
          · rfl
  | update lsn commitTime txId table xmin =>
      rw [apply, (t.update_recorded ..).1]
      refine (Metrics.recordPosition_int m _ fits.lsn fits.commitMicros server).trans ?_
      split
      · next same => subst same; rfl
      · rfl
  | updateTimestamp commitMicros table =>
      rw [apply, (t.updateTimestamp_recorded ..).1]
      refine (Metrics.recordTimestamp_int m _ fits.commitMicros server).trans ?_
      split
      · next same => subst same; rfl
      · rfl
  | startSnapshot =>
      refine (m.ofServer_modify t.source.server _ server).trans ?_
      split
      · next same => subst same; rfl
      · rfl
  | markLastRecord =>
      split
      · rfl
      · rfl
  | completeSnapshot =>
      refine (m.ofServer_modify t.source.server _ server).trans ?_
      split
      · next same => subst same; rfl
      · rfl

end Step

/-- The latest of what some steps tell. -/
def latest? (told? : Step → Option α) (steps : List Step) : Option α :=
  (steps.filterMap told?).getLast?

/-- What the steps of all trackers of one server come to, in their order. -/
def account (steps : List Step) : ServerMetrics where
  lsn := (latest? Step.lsn? steps).map (Binary64.ofSignedRatio · 1)
  commitSeconds := (latest? Step.commitMicros? steps).map
    (Binary64.ofSignedRatio · Metrics.microsPerSecond)
  snapshotInEffect := latest? Step.settled? steps
  positionUpdates := steps.countP Step.isUpdate
  timestampUpdates := steps.countP Step.isTimestampUpdate
  checkpointsLoaded := steps.countP Step.isLoad

theorem latest?_concat (told? : Step → Option α) (steps : List Step) (s : Step) :
    latest? told? (steps ++ [s]) = (told? s).or (latest? told? steps) := by
  rw [latest?, List.filterMap_append, List.getLast?_append, latest?]
  cases told : told? s <;> simp [told]

theorem countP_concat (p : α → Bool) (all : List α) (x : α) :
    (all ++ [x]).countP p = all.countP p + (p x).toNat := by
  rw [List.countP_append, List.countP_singleton]
  cases p x <;> rfl

theorem account_concat (steps : List Step) (s : Step) :
    account (steps ++ [s]) = s.addTo (account steps) := by
  simp only [account, latest?_concat, countP_concat, Option.map_or, Step.addTo]

end WalCheckpoint.Tracker
