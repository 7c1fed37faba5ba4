import WalCheckpoint.Tracker

namespace WalCheckpoint

open Time

/-! What one operation does to a tracker, to its offset and to the table it names.
Measurements have no part in it. -/

namespace Metrics

/-- Whether a measurement is taken depends on the values alone. -/
theorem recordPosition_result (server server' : String) (lsn commitMicros : Option Value)
    (m m' : Metrics) :
    (recordPosition server lsn commitMicros m).2 =
      (recordPosition server' lsn commitMicros m').2 := by
  cases lsn with
  | none => cases commitMicros <;> rfl
  | some lsn =>
      cases shown : gaugeNumber lsn with
      | error error => simp [recordPosition, recordLsn, shown, outcome]
      | ok x =>
          cases commitMicros <;> simp [recordPosition, recordLsn, recordCommit, shown, outcome]

theorem recordTimestamp_result (server server' : String) (commitMicros : Option Value)
    (m m' : Metrics) :
    (recordTimestamp server commitMicros m).2 =
      (recordTimestamp server' commitMicros m').2 := by
  cases commitMicros <;> rfl

end Metrics

namespace Tracker

variable (t : Tracker) (id : Option TableId)

@[simp] theorem withTable_source : (t.withTable id).source = t.source := by
  cases id <;> rfl

@[simp] theorem withTable_position : (t.withTable id).position = t.position := by
  cases id <;> rfl

@[simp] theorem withTable_inSnapshot : (t.withTable id).inSnapshot = t.inSnapshot := by
  cases id <;> rfl

@[simp] theorem withTable_lastRecord : (t.withTable id).lastRecord = t.lastRecord := by
  cases id <;> rfl

@[simp] theorem withTable_schema :
    (t.withTable id).schema = stickyName t.schema (id.bind TableId.schema) := by
  cases id <;> rfl

@[simp] theorem withTable_table :
    (t.withTable id).table = stickyName t.table (id.bind TableId.table) := by
  cases id <;> rfl

/-- The tracker that an operation leaves, whether it goes through or fails. -/
def after : Operation → Tracker
  | .load stored =>
      match Offset.read stored with
      | .ok offset => t.withOffset offset
      | .error _ => t
  | .update lsn commitTime txId table xmin =>
      { t with position := ⟨lsn, txId, xmin, commitTime.map DateTime.toMicros⟩ }.withTable table
  | .updateTimestamp commitMicros table =>
      { t with position := { t.position with commitMicros := commitMicros } }.withTable table
  | .startSnapshot => { t with inSnapshot := true, lastRecord := some false }
  | .markLastRecord => { t with lastRecord := some true }
  | .completeSnapshot => { t with inSnapshot := false }

@[simp] theorem apply_tracker (m : Metrics) (operation : Operation) :
    (t.apply m operation).tracker = t.after operation := by
  cases operation with
  | load stored =>
      simp only [apply, load, after]
      cases Offset.read stored <;> rfl
  | update lsn commitTime txId table xmin =>
      simp only [apply, update, after]
      split <;> rfl
  | updateTimestamp commitMicros table =>
      simp only [apply, updateTimestamp, after]
      split <;> rfl
  | startSnapshot => rfl
  | markLastRecord => rfl
  | completeSnapshot => rfl

theorem load_failure (stored : Mapping) (m : Metrics) :
    (t.load stored m).failure =
      match Offset.read stored with
      | .ok _ => none
      | .error error => some (.unreadableOffset error) := by
  rw [load]
  cases Offset.read stored <;> rfl

theorem update_recorded (lsn : Option Int) (commitTime : Option DateTime) (txId : Option Int)
    (table : Option TableId) (xmin : Option Int) (m : Metrics) :
    let recorded := m.recordPosition t.source.server (lsn.map .int)
      ((commitTime.map DateTime.toMicros).map .int)
    let outcome := t.update lsn commitTime txId table xmin m
    outcome.metrics = recorded.1 ∧
      outcome.failure =
        match recorded.2 with
        | .ok () => none
        | .error error => some (.unmeasurable error) := by
  simp only [update, withTable_source]
  split
  · next recorded => rw [recorded]; exact ⟨rfl, rfl⟩
  · next recorded => rw [recorded]; exact ⟨rfl, rfl⟩

theorem updateTimestamp_recorded (commitMicros : Option Int) (table : Option TableId)
    (m : Metrics) :
    let recorded := m.recordTimestamp t.source.server (commitMicros.map .int)
    let outcome := t.updateTimestamp commitMicros table m
    outcome.metrics = recorded.1 ∧
      outcome.failure =
        match recorded.2 with
        | .ok () => none
        | .error error => some (.unmeasurable error) := by
  simp only [updateTimestamp, withTable_source]
  split
  · next recorded => rw [recorded]; exact ⟨rfl, rfl⟩
  · next recorded => rw [recorded]; exact ⟨rfl, rfl⟩

/-- An operation goes through or fails by what it is given, whatever the tracker. -/
theorem apply_failure (t' : Tracker) (m m' : Metrics) (operation : Operation) :
    (t.apply m operation).failure = (t'.apply m' operation).failure := by
  cases operation with
  | load stored => simp only [apply, load_failure]
  | update lsn commitTime txId table xmin =>
      rw [apply, apply, (t.update_recorded ..).2, (t'.update_recorded ..).2,
        Metrics.recordPosition_result t.source.server t'.source.server _ _ m m']
  | updateTimestamp commitMicros table =>
      rw [apply, apply, (t.updateTimestamp_recorded ..).2, (t'.updateTimestamp_recorded ..).2,
        Metrics.recordTimestamp_result t.source.server t'.source.server _ m m']
  | startSnapshot => rfl
  | markLastRecord => rfl
  | completeSnapshot => rfl

theorem apply_metrics {t t' : Tracker} (same : t.source = t'.source) (m : Metrics)
    (operation : Operation) :
    (t.apply m operation).metrics = (t'.apply m operation).metrics := by
  cases operation with
  | load stored =>
      simp only [apply, load]
      cases Offset.read stored with
      | error error => rfl
      | ok offset => simp [withOffset, same]
  | update lsn commitTime txId table xmin =>
      rw [apply, apply, (t.update_recorded ..).1, (t'.update_recorded ..).1, same]
  | updateTimestamp commitMicros table =>
      rw [apply, apply, (t.updateTimestamp_recorded ..).1, (t'.updateTimestamp_recorded ..).1,
        same]
  | startSnapshot => simp only [apply, startSnapshot, same]
  | markLastRecord => rfl
  | completeSnapshot => simp only [apply, completeSnapshot, same]

@[simp] theorem after_source (operation : Operation) :
    (t.after operation).source = t.source := by
  cases operation with
  | load stored =>
      rw [after]
      cases Offset.read stored <;> rfl
  | update lsn commitTime txId table xmin => simp [after]
  | updateTimestamp commitMicros table => simp [after]
  | startSnapshot => rfl
  | markLastRecord => rfl
  | completeSnapshot => rfl

def Operation.table? : Operation → Option TableId
  | .update _ _ _ table _ => table
  | .updateTimestamp _ table => table
  | _ => none

theorem after_names (operation : Operation) :
    (t.after operation).schema =
        stickyName t.schema (operation.table?.bind TableId.schema) ∧
      (t.after operation).table =
        stickyName t.table (operation.table?.bind TableId.table) := by
  cases operation with
  | load stored =>
      rw [after]
      cases Offset.read stored <;> exact ⟨rfl, rfl⟩
  | update lsn commitTime txId table xmin => simp [after, Operation.table?]
  | updateTimestamp commitMicros table => simp [after, Operation.table?]
  | startSnapshot => exact ⟨rfl, rfl⟩
  | markLastRecord => exact ⟨rfl, rfl⟩
  | completeSnapshot => exact ⟨rfl, rfl⟩

/-! The offset of a tracker moves on by itself: the mark that is left of an earlier snapshot
never comes to light. -/

def Operation.onOffset (o : Offset) : Operation → Offset
  | .load stored =>
      match Offset.read stored with
      | .ok offset => offset
      | .error _ => o
  | .update lsn commitTime txId _ xmin =>
      { o with position := ⟨lsn, txId, xmin, commitTime.map DateTime.toMicros⟩ }
  | .updateTimestamp commitMicros _ =>
      { o with position := { o.position with commitMicros := commitMicros } }
  | .startSnapshot => { o with snapshot := some ⟨some false⟩ }
  | .markLastRecord => { o with snapshot := o.snapshot.map fun _ => ⟨some true⟩ }
  | .completeSnapshot => { o with snapshot := none }

theorem withOffset_offset (o : Offset) : (t.withOffset o).offset = o := by
  obtain ⟨position, snapshot⟩ := o
  cases snapshot <;> rfl

theorem after_offset (operation : Operation) :
    (t.after operation).offset = operation.onOffset t.offset := by
  cases operation with
  | load stored =>
      rw [after, Operation.onOffset]
      cases Offset.read stored with
      | error error => rfl
      | ok offset => exact t.withOffset_offset offset
  | update lsn commitTime txId table xmin => simp [after, Operation.onOffset, offset]
  | updateTimestamp commitMicros table => simp [after, Operation.onOffset, offset]
  | startSnapshot => rfl
  | markLastRecord =>
      cases running : t.inSnapshot <;> simp [after, Operation.onOffset, offset, running]
  | completeSnapshot => rfl

/-! What is read off a tracker besides names is read off its offset. -/

theorem inSnapshot_eq : t.inSnapshot = t.offset.snapshot.isSome := by
  cases running : t.inSnapshot <;> simp [offset, running]

theorem hasPosition_eq : t.hasPosition = t.offset.position.lsn.isSome := rfl

end Tracker

def Offset.recovery (o : Offset) : Except Recovery.Error Recovery := do
  let commitTime ← Recovery.commitTime? o.position.commitMicros
  return {
    lsn := o.position.lsn
    txId := o.position.txId
    xmin := o.position.xmin
    commitTime := commitTime
    snapshotInEffect := o.snapshot.isSome
    lastSnapshotRecord := o.snapshot.bind Snapshot.lastRecord }

theorem Tracker.recovery_eq (t : Tracker) : t.recovery = t.offset.recovery := by
  cases running : t.inSnapshot <;> simp [recovery, Offset.recovery, offset, running]

end WalCheckpoint
