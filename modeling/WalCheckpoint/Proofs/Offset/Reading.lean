import WalCheckpoint.Offset

namespace WalCheckpoint.Offset

/-! What a reading that goes through has found under each name. -/

def storedInt? (stored : Mapping) (field : String) : Option Int :=
  (stored.field? field).bind integral?

theorem readInt_ok {field : String} {value : Value} {n : Int}
    (read : readInt field value = .ok n) : integral? value = some n := by
  unfold readInt at read
  split at read
  · next denoted => rw [denoted, Except.ok.inj read]
  · contradiction

theorem requiredInt_ok {stored : Mapping} {field : String} {n : Int}
    (read : requiredInt stored field = .ok n) : storedInt? stored field = some n := by
  unfold requiredInt at read
  split at read
  · contradiction
  · contradiction
  · next value _ held => rw [storedInt?, held, Option.bind_some, readInt_ok read]

theorem optionalInt_ok {stored : Mapping} {field : String} {n : Option Int}
    (read : optionalInt stored field = .ok n) : storedInt? stored field = n := by
  unfold optionalInt at read
  split at read
  · next absent => rw [storedInt?, absent, Option.bind_none, Except.ok.inj read]
  · next null => rw [storedInt?, null, ← Except.ok.inj read]; rfl
  · next value _ held =>
      cases number : readInt field value with
      | error error => rw [number] at read; contradiction
      | ok denoted =>
          rw [number] at read
          rw [storedInt?, held, Option.bind_some, readInt_ok number]
          exact Except.ok.inj read

theorem readSnapshot_ok {stored : Mapping} {snapshot : Option Snapshot}
    (read : readSnapshot stored = .ok snapshot) :
    snapshot.isSome = stored.hasField snapshotKey ∧
      ∀ s, snapshot = some s →
        ofOptionalBool s.lastRecord = (stored.field? lastRecordKey).getD .null := by
  unfold readSnapshot at read
  split at read
  · next marked =>
      rw [marked]
      split at read
      · next absent =>
          obtain rfl := Except.ok.inj read
          simp [absent, ofOptionalBool]
      · next null =>
          obtain rfl := Except.ok.inj read
          simp [null, ofOptionalBool]
      · next flag held =>
          obtain rfl := Except.ok.inj read
          simp [held, ofOptionalBool]
      · contradiction
  · next unmarked =>
      obtain rfl := Except.ok.inj read
      exact ⟨by simpa using unmarked, by simp⟩

section Congruence

variable {stored stored' : Mapping} {field : String}

theorem requiredInt_congr (same : stored.field? field = stored'.field? field) :
    requiredInt stored field = requiredInt stored' field := by
  rw [requiredInt, requiredInt, same]

theorem optionalInt_congr (same : stored.field? field = stored'.field? field) :
    optionalInt stored field = optionalInt stored' field := by
  rw [optionalInt, optionalInt, same]

theorem readSnapshot_congr (marker : stored.field? snapshotKey = stored'.field? snapshotKey)
    (record : stored.field? lastRecordKey = stored'.field? lastRecordKey) :
    readSnapshot stored = readSnapshot stored' := by
  rw [readSnapshot, readSnapshot, Mapping.hasField, Mapping.hasField, marker, record]

/-- A reading looks at the six names of an offset and at nothing else. -/
theorem read_congr (same : ∀ name ∈ keys, stored.field? name = stored'.field? name) :
    read stored = read stored' := by
  rw [read, read, requiredInt_congr (same lsnKey (by decide)),
    requiredInt_congr (same txIdKey (by decide)), optionalInt_congr (same xminKey (by decide)),
    optionalInt_congr (same commitMicrosKey (by decide)),
    readSnapshot_congr (same snapshotKey (by decide)) (same lastRecordKey (by decide))]

end Congruence

private theorem bind_ok {x : Except ε α} {f : α → Except ε β} {b : β}
    (h : x >>= f = .ok b) : ∃ a, x = .ok a ∧ f a = .ok b := by
  cases x with
  | error error => contradiction
  | ok a => exact ⟨a, rfl, h⟩

theorem read_ok {stored : Mapping} {o : Offset} (hread : read stored = .ok o) :
    ∃ lsn txId, o.position.lsn = some lsn ∧ o.position.txId = some txId ∧
      requiredInt stored lsnKey = .ok lsn ∧ requiredInt stored txIdKey = .ok txId ∧
      optionalInt stored xminKey = .ok o.position.xmin ∧
      optionalInt stored commitMicrosKey = .ok o.position.commitMicros ∧
      readSnapshot stored = .ok o.snapshot := by
  obtain ⟨lsn, hlsn, hread⟩ := bind_ok hread
  obtain ⟨txId, htxId, hread⟩ := bind_ok hread
  obtain ⟨xmin, hxmin, hread⟩ := bind_ok hread
  obtain ⟨commitMicros, hcommit, hread⟩ := bind_ok hread
  obtain ⟨snapshot, hsnapshot, hread⟩ := bind_ok hread
  obtain rfl := Except.ok.inj hread
  exact ⟨lsn, txId, rfl, rfl, hlsn, htxId, hxmin, hcommit, hsnapshot⟩

end WalCheckpoint.Offset
