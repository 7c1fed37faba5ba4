import WalCheckpoint.Proofs.Tracker.Position

namespace WalCheckpoint.Tracker

/-! Whether a snapshot runs and whether its last record was reached, over whole runs. Marks
that were made outside of a snapshot stay in the tracker and are never seen. -/

/-- A start, an end and a load that goes through settle whether a snapshot runs. -/
def Step.SettlesSnapshot (s : Step) : Prop :=
  match s.operation with
  | .startSnapshot => True
  | .completeSnapshot => True
  | .load _ => s.Succeeded
  | _ => False

/-- Any stored marker of a snapshot begins it again. -/
def Operation.BeginsSnapshot : Operation → Prop
  | .startSnapshot => True
  | .load stored => stored.hasField Offset.snapshotKey = true
  | _ => False

def Operation.firstLastRecord : Operation → Value
  | .startSnapshot => .bool false
  | .load stored => (stored.field? Offset.lastRecordKey).getD .null
  | _ => .null

/-- Whether the last record was reached, by what began the snapshot and came since. -/
def Step.lastRecord (beginning : Step) (since : List Step) : Value :=
  if .markLastRecord ∈ since.map Step.operation then .bool true
  else beginning.operation.firstLastRecord

theorem Step.lastRecord_concat (beginning : Step) (since : List Step) (s : Step) :
    beginning.lastRecord (since ++ [s]) =
      if s.operation = .markLastRecord then .bool true else beginning.lastRecord since := by
  by_cases marks : s.operation = .markLastRecord
  · simp [lastRecord, marks]
  · simp [lastRecord, marks, Ne.symm marks]

structure SnapshotTold (t : Tracker) (latest : Step) (since : List Step) : Prop where
  running : t.inSnapshot = true ↔ latest.operation.BeginsSnapshot
  lastRecord : t.inSnapshot = true →
    Offset.ofOptionalBool t.lastRecord = latest.lastRecord since

section Step

variable {m : Metrics} {t : Tracker} {operation : Operation}

theorem snapshotTold_of_settles (settles : (step m t operation).SettlesSnapshot) :
    SnapshotTold (t.after operation) (step m t operation) [] := by
  cases operation with
  | load stored =>
      obtain ⟨offset, hread⟩ := step_load_succeeded.mp settles
      obtain ⟨-, -, -, -, -, -, -, -, hsnapshot⟩ := Offset.read_ok hread
      obtain ⟨marked, told⟩ := Offset.readSnapshot_ok hsnapshot
      have loaded : t.after (.load stored) = t.withOffset offset := by simp only [after, hread]
      rw [loaded]
      refine ⟨by rw [withOffset, marked]; exact Iff.rfl, fun running => ?_⟩
      obtain ⟨snapshot, same⟩ := Option.isSome_iff_exists.mp running
      have reached := told snapshot same
      simpa [withOffset, same, Step.lastRecord, step, Operation.firstLastRecord] using reached
  | update lsn commitTime txId table xmin => exact absurd settles id
  | updateTimestamp commitMicros table => exact absurd settles id
  | startSnapshot => exact ⟨⟨fun _ => trivial, fun _ => rfl⟩, fun _ => rfl⟩
  | markLastRecord => exact absurd settles id
  | completeSnapshot => exact ⟨⟨Bool.noConfusion, False.elim⟩, Bool.noConfusion⟩

theorem after_flags (spares : ¬ (step m t operation).SettlesSnapshot)
    (unmarked : operation ≠ .markLastRecord) :
    (t.after operation).inSnapshot = t.inSnapshot ∧
      (t.after operation).lastRecord = t.lastRecord := by
  cases operation with
  | load stored =>
      rw [after_load_rejected spares]
      exact ⟨rfl, rfl⟩
  | update lsn commitTime txId table xmin => simp [after]
  | updateTimestamp commitMicros table => simp [after]
  | startSnapshot => exact absurd trivial spares
  | markLastRecord => exact absurd rfl unmarked
  | completeSnapshot => exact absurd trivial spares

theorem snapshotTold_of_not_settles {latest : Step} {since : List Step}
    (spares : ¬ (step m t operation).SettlesSnapshot) (told : SnapshotTold t latest since) :
    SnapshotTold (t.after operation) latest (since ++ [step m t operation]) := by
  by_cases marks : operation = .markLastRecord
  · subst marks
    refine ⟨told.running, fun _ => ?_⟩
    rw [Step.lastRecord_concat]
    rfl
  · obtain ⟨inSnapshot, lastRecord⟩ := after_flags spares marks
    refine ⟨by rw [inSnapshot]; exact told.running, fun running => ?_⟩
    rw [Step.lastRecord_concat, step_operation, if_neg marks, lastRecord]
    exact told.lastRecord (inSnapshot ▸ running)

theorem inSnapshot_of_not_settles (spares : ¬ (step m t operation).SettlesSnapshot)
    (idle : t.inSnapshot = false) : (t.after operation).inSnapshot = false := by
  by_cases marks : operation = .markLastRecord
  · subst marks
    exact idle
  · rw [(after_flags spares marks).1, idle]

end Step

/-! Trackers that differ at most in a mark that no snapshot shows. -/

structure Alike (t t' : Tracker) : Prop where
  source : t.source = t'.source
  offset : t.offset = t'.offset
  schema : t.schema = t'.schema
  table : t.table = t'.table

namespace Alike

variable {t t' : Tracker}

theorem refl (t : Tracker) : Alike t t := ⟨rfl, rfl, rfl, rfl⟩

theorem symm (h : Alike t t') : Alike t' t :=
  ⟨h.source.symm, h.offset.symm, h.schema.symm, h.table.symm⟩

theorem trans {t'' : Tracker} (h : Alike t t') (h' : Alike t' t'') : Alike t t'' :=
  ⟨h.source.trans h'.source, h.offset.trans h'.offset, h.schema.trans h'.schema,
    h.table.trans h'.table⟩

theorem position (h : Alike t t') : t.position = t'.position :=
  congrArg Offset.position h.offset

theorem inSnapshot (h : Alike t t') : t.inSnapshot = t'.inSnapshot := by
  rw [inSnapshot_eq, inSnapshot_eq, h.offset]

theorem lastRecord (h : Alike t t') (running : t.inSnapshot = true) :
    t.lastRecord = t'.lastRecord := by
  have shown := congrArg Offset.snapshot h.offset
  simpa [Tracker.offset, running, ← h.inSnapshot] using shown

theorem envelope (h : Alike t t') : t.envelope = t'.envelope := by
  rw [Tracker.envelope, Tracker.envelope, h.source, h.offset, h.schema, h.table]

theorem recovery (h : Alike t t') : t.recovery = t'.recovery := by
  rw [recovery_eq, recovery_eq, h.offset]

theorem describe? (h : Alike t t') : t.describe? = t'.describe? := by
  have shown : describeSnapshot t.inSnapshot t.lastRecord =
      describeSnapshot t'.inSnapshot t'.lastRecord := by
    cases running : t.inSnapshot with
    | false => rw [← h.inSnapshot, running]; rfl
    | true => rw [← h.inSnapshot, h.lastRecord running, running]
  simp only [Tracker.describe?, shown, h.source, h.position, h.schema, h.table]

theorem after (h : Alike t t') (operation : Operation) :
    Alike (t.after operation) (t'.after operation) where
  source := by rw [after_source, after_source, h.source]
  offset := by rw [after_offset, after_offset, h.offset]
  schema := by rw [(t.after_names operation).1, (t'.after_names operation).1, h.schema]
  table := by rw [(t.after_names operation).2, (t'.after_names operation).2, h.table]

/-- Trackers that are alike stay alike and are measured alike. -/
theorem run (h : Alike t t') (m : Metrics) (operations : List Operation) :
    Alike (run m t operations).tracker (run m t' operations).tracker ∧
      (Tracker.run m t operations).metrics = (Tracker.run m t' operations).metrics := by
  induction operations generalizing m t t' with
  | nil => exact ⟨h, rfl⟩
  | cons operation rest induction =>
      obtain ⟨tracker, metrics⟩ := run_cons m t operation rest
      obtain ⟨tracker', metrics'⟩ := run_cons m t' operation rest
      rw [tracker, metrics, tracker', metrics', apply_metrics h.source m operation]
      exact induction (h.after operation) _

theorem mark (idle : t.inSnapshot = false) : Alike (t.after .markLastRecord) t where
  source := rfl
  offset := by simp [Tracker.after, Tracker.offset, idle]
  schema := rfl
  table := rfl

end Alike

/-- The operations of a run without the marks that were made while no snapshot ran. -/
def withoutIdleMarks (m : Metrics) (t : Tracker) : List Operation → List Operation
  | [] => []
  | operation :: rest =>
      let outcome := t.apply m operation
      let kept := withoutIdleMarks outcome.metrics outcome.tracker rest
      if operation = .markLastRecord ∧ t.inSnapshot = false then kept else operation :: kept

theorem run_withoutIdleMarks (m : Metrics) (t : Tracker) (operations : List Operation) :
    Alike (run m t operations).tracker (run m t (withoutIdleMarks m t operations)).tracker ∧
      (run m t operations).metrics = (run m t (withoutIdleMarks m t operations)).metrics := by
  induction operations generalizing m t with
  | nil => exact ⟨.refl t, rfl⟩
  | cons operation rest induction =>
      obtain ⟨tracker, metrics⟩ := run_cons m t operation rest
      rw [tracker, metrics, withoutIdleMarks, apply_tracker]
      obtain ⟨alike, measured⟩ := induction (t.apply m operation).metrics (t.after operation)
      split
      · next idle =>
          -- The mark is left out, and the rest runs on from a tracker that is only alike.
          obtain ⟨rfl, idle⟩ := idle
          obtain ⟨alike', measured'⟩ := (Alike.mark idle).run m
            (withoutIdleMarks m (t.after .markLastRecord) rest)
          exact ⟨alike.trans alike', measured.trans measured'⟩
      · obtain ⟨tracker', metrics'⟩ := run_cons m t operation
          (withoutIdleMarks (t.apply m operation).metrics (t.after operation) rest)
        rw [tracker', metrics']
        exact ⟨alike, measured⟩

/-- Runs that differ only in marks made while no snapshot ran end alike, and stay so. -/
theorem alike_of_withoutIdleMarks_eq {m : Metrics} {t : Tracker} {left right : List Operation}
    (same : withoutIdleMarks m t left = withoutIdleMarks m t right)
    (later : List Operation) :
    Alike (run m t (left ++ later)).tracker (run m t (right ++ later)).tracker ∧
      (run m t (left ++ later)).metrics = (run m t (right ++ later)).metrics := by
  obtain ⟨alike, measured⟩ := run_withoutIdleMarks m t left
  obtain ⟨alike', measured'⟩ := run_withoutIdleMarks m t right
  rw [same] at alike measured
  obtain ⟨tracker, metrics⟩ := run_append m t left later
  obtain ⟨tracker', metrics'⟩ := run_append m t right later
  rw [tracker, metrics, tracker', metrics', measured.trans measured'.symm]
  exact (alike.trans alike'.symm).run _ later

/-! What an offset and a recovery show of the snapshot. -/

theorem field?_lastRecord (t : Tracker) :
    t.offset.toMapping.field? Offset.lastRecordKey =
      if t.inSnapshot then some (Offset.ofOptionalBool t.lastRecord) else none := by
  have held : t.offset.toMapping.field? Offset.lastRecordKey =
      t.offset.snapshot.map fun s => Offset.ofOptionalBool s.lastRecord :=
    Offset.field?_toMapping t.offset Offset.lastRecordKey
  rw [held]
  cases running : t.inSnapshot <;> simp [offset, running]

theorem hasField_snapshot (t : Tracker) :
    t.offset.toMapping.hasField Offset.snapshotKey = t.inSnapshot := by
  have held : t.offset.toMapping.field? Offset.snapshotKey =
      t.offset.snapshot.map fun _ => .bool true :=
    Offset.field?_toMapping t.offset Offset.snapshotKey
  rw [Mapping.hasField, held, inSnapshot_eq]
  simp

theorem recovery_lastSnapshotRecord {t : Tracker} {r : Recovery} (told : t.recovery = .ok r) :
    r.lastSnapshotRecord = if t.inSnapshot then t.lastRecord else none := by
  unfold recovery at told
  cases time : Recovery.commitTime? t.position.commitMicros with
  | error error => rw [time] at told; contradiction
  | ok commitTime =>
      rw [time] at told
      rw [← Except.ok.inj told]

theorem run_snapshotTold {m : Metrics} {t : Tracker} {operations : List Operation}
    (hlatest : Latest Step.SettlesSnapshot (history m t operations) earlier latest since) :
    SnapshotTold (run m t operations).tracker latest since := by
  refine told_of_latest SnapshotTold ?_ ?_ hlatest
  · intro m u operation settles
    exact snapshotTold_of_settles settles
  · intro m u operation latest since spares told
    exact snapshotTold_of_not_settles spares told

theorem run_idle {m : Metrics} {t : Tracker} {operations : List Operation}
    (idle : t.inSnapshot = false)
    (without : ∀ s ∈ history m t operations, ¬ s.SettlesSnapshot) :
    (run m t operations).tracker.inSnapshot = false := by
  refine run_induction_without (fun u => u.inSnapshot = false) ?_ idle without
  intro m u operation spares idle
  exact inSnapshot_of_not_settles spares idle

/-- Whether a snapshot runs is settled by the latest start, end or load that went through;
what is shown of its last record comes from there and from the marks since; nothing is shown
outside of a snapshot, and marks made there never change anything that is seen. -/
theorem snapshot_of_latest (source : Source) (m : Metrics) (operations : List Operation) :
    let t := (run m (start source) operations).tracker
    let steps := history m (start source) operations
    (t.inSnapshot = true ↔
      ∃ earlier latest since, Latest Step.SettlesSnapshot steps earlier latest since ∧
        latest.operation.BeginsSnapshot) ∧
    (t.inSnapshot = true → ∀ earlier latest since,
      Latest Step.SettlesSnapshot steps earlier latest since →
        t.offset.toMapping.field? Offset.lastRecordKey = some (latest.lastRecord since) ∧
        ∀ r, t.recovery = .ok r →
          Offset.ofOptionalBool r.lastSnapshotRecord = latest.lastRecord since) ∧
    (t.inSnapshot = false →
      t.offset.toMapping.hasField Offset.snapshotKey = false ∧
      t.offset.toMapping.hasField Offset.lastRecordKey = false ∧
      ∀ r, t.recovery = .ok r → r.lastSnapshotRecord = none) ∧
    ∀ other later,
      withoutIdleMarks m (start source) operations = withoutIdleMarks m (start source) other →
      let left := run m (start source) (operations ++ later)
      let right := run m (start source) (other ++ later)
      left.tracker.offset.toMapping = right.tracker.offset.toMapping ∧
      left.tracker.envelope = right.tracker.envelope ∧
      left.tracker.recovery = right.tracker.recovery ∧
      left.tracker.describe? = right.tracker.describe? ∧
      left.metrics = right.metrics := by
  intro t steps
  refine ⟨⟨fun running => ?_, ?_⟩, ?_, ?_, ?_⟩
  · rcases Latest.exists_or_none Step.SettlesSnapshot steps with
      without | ⟨earlier, latest, since, hlatest⟩
    · have idle : t.inSnapshot = false := run_idle rfl without
      rw [idle] at running
      contradiction
    · exact ⟨earlier, latest, since, hlatest, (run_snapshotTold hlatest).running.mp running⟩
  · rintro ⟨earlier, latest, since, hlatest, begins⟩
    exact (run_snapshotTold hlatest).running.mpr begins
  · intro running earlier latest since hlatest
    have told := (run_snapshotTold hlatest).lastRecord running
    refine ⟨by rw [field?_lastRecord, if_pos running, told], fun r hr => ?_⟩
    rw [recovery_lastSnapshotRecord hr, if_pos running, told]
  · intro idle
    refine ⟨by rw [hasField_snapshot, idle], ?_, fun r hr => ?_⟩
    · rw [Mapping.hasField, field?_lastRecord, idle]
      rfl
    · rw [recovery_lastSnapshotRecord hr, idle]
      rfl
  · intro other later same left right
    obtain ⟨alike, measured⟩ := alike_of_withoutIdleMarks_eq same later
    exact ⟨congrArg Offset.toMapping alike.offset, alike.envelope, alike.recovery,
      alike.describe?, measured⟩

end WalCheckpoint.Tracker
