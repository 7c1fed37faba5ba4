import WalCheckpoint.Proofs.Offset.Reading
import WalCheckpoint.Proofs.Offset.RoundTrip
import WalCheckpoint.Proofs.Tracker.Run

namespace WalCheckpoint

open Time

/-! The position of a tracker is never put together from parts of several events. -/

/-- The same place in the stream, whatever the commit times. -/
def Position.SamePlace (p q : Position) : Prop :=
  p.lsn = q.lsn ∧ p.txId = q.txId ∧ p.xmin = q.xmin

theorem Position.SamePlace.trans {p q r : Position} (first : p.SamePlace q)
    (second : q.SamePlace r) : p.SamePlace r :=
  ⟨first.1.trans second.1, first.2.1.trans second.2.1, first.2.2.trans second.2.2⟩

namespace Tracker

def Operation.given : Operation → Position
  | .load stored =>
      { lsn := Offset.storedInt? stored Offset.lsnKey
        txId := Offset.storedInt? stored Offset.txIdKey
        xmin := Offset.storedInt? stored Offset.xminKey
        commitMicros := Offset.storedInt? stored Offset.commitMicrosKey }
  | .update lsn commitTime txId _ xmin =>
      ⟨lsn, txId, xmin, commitTime.map DateTime.toMicros⟩
  | .updateTimestamp commitMicros _ => { Position.unknown with commitMicros := commitMicros }
  | .startSnapshot => .unknown
  | .markLastRecord => .unknown
  | .completeSnapshot => .unknown

/-- Updates write a position even where they fail, loads only where they go through. -/
def Step.WritesPosition (s : Step) : Prop :=
  match s.operation with
  | .update .. => True
  | .load _ => s.Succeeded
  | _ => False

/-- The commit time has one writer more. -/
def Step.WritesCommit (s : Step) : Prop :=
  match s.operation with
  | .update .. => True
  | .updateTimestamp .. => True
  | .load _ => s.Succeeded
  | _ => False

section Step

variable {m : Metrics} {t : Tracker}

theorem step_load_succeeded {stored : Mapping} :
    (step m t (.load stored)).Succeeded ↔ ∃ offset, Offset.read stored = .ok offset := by
  rw [Step.Succeeded, step]
  simp only [apply, load_failure]
  cases Offset.read stored <;> simp

theorem after_load_position {stored : Mapping} {offset : Offset}
    (hread : Offset.read stored = .ok offset) :
    (t.after (.load stored)).position = (Operation.load stored).given := by
  obtain ⟨lsn, txId, hlsn, htxId, readLsn, readTxId, readXmin, readCommit, -⟩ :=
    Offset.read_ok hread
  simp only [after, hread, withOffset, Operation.given]
  rw [Offset.requiredInt_ok readLsn, Offset.requiredInt_ok readTxId,
    Offset.optionalInt_ok readXmin, Offset.optionalInt_ok readCommit, ← hlsn, ← htxId]

theorem after_load_rejected {stored : Mapping}
    (rejected : ¬ (step m t (.load stored)).Succeeded) : t.after (.load stored) = t := by
  rw [after]
  cases hread : Offset.read stored with
  | error error => rfl
  | ok offset => exact absurd (step_load_succeeded.mpr ⟨offset, hread⟩) rejected

theorem samePlace_given {operation : Operation}
    (writes : (step m t operation).WritesPosition) :
    (t.after operation).position.SamePlace operation.given := by
  cases operation with
  | load stored =>
      obtain ⟨offset, hread⟩ := step_load_succeeded.mp writes
      rw [after_load_position hread]
      exact ⟨rfl, rfl, rfl⟩
  | update lsn commitTime txId table xmin =>
      rw [after, withTable_position]
      exact ⟨rfl, rfl, rfl⟩
  | updateTimestamp commitMicros table => exact absurd writes id
  | startSnapshot => exact absurd writes id
  | markLastRecord => exact absurd writes id
  | completeSnapshot => exact absurd writes id

theorem samePlace_of_not_writes {operation : Operation}
    (spares : ¬ (step m t operation).WritesPosition) :
    (t.after operation).position.SamePlace t.position := by
  cases operation with
  | load stored =>
      rw [after_load_rejected spares]
      exact ⟨rfl, rfl, rfl⟩
  | update lsn commitTime txId table xmin => exact absurd trivial spares
  | updateTimestamp commitMicros table =>
      rw [after, withTable_position]
      exact ⟨rfl, rfl, rfl⟩
  | startSnapshot => exact ⟨rfl, rfl, rfl⟩
  | markLastRecord => exact ⟨rfl, rfl, rfl⟩
  | completeSnapshot => exact ⟨rfl, rfl, rfl⟩

theorem commitMicros_given {operation : Operation}
    (writes : (step m t operation).WritesCommit) :
    (t.after operation).position.commitMicros = operation.given.commitMicros := by
  cases operation with
  | load stored =>
      obtain ⟨offset, hread⟩ := step_load_succeeded.mp writes
      rw [after_load_position hread]
  | update lsn commitTime txId table xmin => rw [after, withTable_position]; rfl
  | updateTimestamp commitMicros table => rw [after, withTable_position]; rfl
  | startSnapshot => exact absurd writes id
  | markLastRecord => exact absurd writes id
  | completeSnapshot => exact absurd writes id

theorem position_of_not_writes {operation : Operation}
    (spares : ¬ (step m t operation).WritesCommit) :
    (t.after operation).position = t.position := by
  cases operation with
  | load stored => rw [after_load_rejected spares]
  | update lsn commitTime txId table xmin => exact absurd trivial spares
  | updateTimestamp commitMicros table => exact absurd trivial spares
  | startSnapshot => rfl
  | markLastRecord => rfl
  | completeSnapshot => rfl

end Step

theorem run_place (m : Metrics) (t : Tracker) (operations : List Operation) :
    let final := (run m t operations).tracker
    let steps := history m t operations
    (∀ s ∈ steps, ¬ s.WritesPosition) ∧ final.position.SamePlace t.position ∨
      ∃ earlier latest since, Latest Step.WritesPosition steps earlier latest since ∧
        final.position.SamePlace latest.operation.given := by
  intro final steps
  refine written_by_latest (fun u place => u.position.SamePlace place) Operation.given
    ?_ ?_ ⟨rfl, rfl, rfl⟩
  · intro m u operation writes
    exact samePlace_given writes
  · intro m u operation place spares unchanged
    exact (samePlace_of_not_writes spares).trans unchanged

theorem run_commitMicros (m : Metrics) (t : Tracker) (operations : List Operation) :
    let final := (run m t operations).tracker
    let steps := history m t operations
    (∀ s ∈ steps, ¬ s.WritesCommit) ∧ final.position.commitMicros = t.position.commitMicros ∨
      ∃ earlier latest since, Latest Step.WritesCommit steps earlier latest since ∧
        final.position.commitMicros = latest.operation.given.commitMicros := by
  intro final steps
  refine written_by_latest (fun u commitMicros => u.position.commitMicros = commitMicros)
    (fun operation => operation.given.commitMicros) ?_ ?_ rfl
  · intro m u operation writes
    exact commitMicros_given writes
  · intro m u operation commitMicros spares unchanged
    rw [position_of_not_writes spares, unchanged]

/-- The place of a tracker is given whole by one operation, the latest of those that write a
place; its commit time is given by the latest of those that write one; nothing else moves
either; and its offset holds those of the four numbers that are known, as they are. -/
theorem position_of_latest (source : Source) (m : Metrics) (operations : List Operation) :
    let t := (run m (start source) operations).tracker
    let steps := history m (start source) operations
    ((∀ s ∈ steps, ¬ s.WritesPosition) ∧ t.position.SamePlace .unknown ∨
      ∃ earlier latest since, Latest Step.WritesPosition steps earlier latest since ∧
        t.position.SamePlace latest.operation.given) ∧
    ((∀ s ∈ steps, ¬ s.WritesCommit) ∧ t.position.commitMicros = none ∨
      ∃ earlier latest since, Latest Step.WritesCommit steps earlier latest since ∧
        t.position.commitMicros = latest.operation.given.commitMicros) ∧
    (∀ m' operation, ¬ (step m' t operation).WritesCommit →
      (t.apply m' operation).tracker.position = t.position) ∧
    t.offset.toMapping.field? Offset.commitMicrosKey = t.position.commitMicros.map .int ∧
    t.offset.toMapping.field? Offset.txIdKey = t.position.txId.map .int ∧
    t.offset.toMapping.field? Offset.lsnKey = t.position.lsn.map .int ∧
    t.offset.toMapping.field? Offset.xminKey = t.position.xmin.map .int := by
  intro t steps
  refine ⟨run_place m (start source) operations, run_commitMicros m (start source) operations,
    ?_, ?_, ?_, ?_, ?_⟩
  · intro m' operation spares
    rw [apply_tracker]
    exact position_of_not_writes spares
  · exact Offset.field?_toMapping t.offset Offset.commitMicrosKey
  · exact Offset.field?_toMapping t.offset Offset.txIdKey
  · exact Offset.field?_toMapping t.offset Offset.lsnKey
  · exact Offset.field?_toMapping t.offset Offset.xminKey

end Tracker

end WalCheckpoint
