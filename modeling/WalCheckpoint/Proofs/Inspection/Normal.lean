import Mathlib.Logic.Relation
import WalCheckpoint.Proofs.Inspection.Report
import WalCheckpoint.Proofs.Offset.Reading

namespace WalCheckpoint

/-! What an inspection does not look at in a stored offset, and the offset it reports, which is
reported as it stands. -/

namespace Offset

variable {stored stored' : Mapping} {key : Value} {name : String}

/-- Keys that are no name of an offset. -/
def Foreign (key : Value) : Prop :=
  ∀ name ∈ keys, key ≠ .string name

theorem Foreign.sameKey (foreign : Foreign key) (known : name ∈ keys) :
    key.sameKey (.string name) = false :=
  eq_false_of_ne_true fun same => foreign name known (Value.sameKey_string_iff.mp same)

/-- Changes of a stored offset: other keys come and go, entries change places, and where no snapshot
is named, the mark of its last record is set to anything. -/
inductive Retouched : Mapping → Mapping → Prop
  | put {stored : Mapping} {key : Value} (hashable : key.sameKey key = true)
      (foreign : Foreign key) (value : Value) : Retouched stored (Keyed.insert key value stored)
  | dropped {stored : Mapping} {key : Value} (foreign : Foreign key) :
      Retouched stored (Keyed.erase key stored)
  | reordered {stored stored' : Mapping} (perm : stored.Perm stored') : Retouched stored stored'
  | marked {stored : Mapping} (idle : stored.hasField snapshotKey = false) (value : Value) :
      Retouched stored (Keyed.insert (.string lastRecordKey) value stored)

namespace Retouched

theorem distinct (retouched : Retouched stored stored') (distinct : Keyed.Distinct stored) :
    Keyed.Distinct stored' := by
  cases retouched with
  | put hashable foreign value => exact distinct.insert hashable value
  | dropped foreign => exact distinct.sublist List.filter_sublist
  | reordered perm => exact distinct.perm perm
  | marked idle value => exact distinct.insert (Value.sameKey_string_iff.mpr rfl) value

/-- Of the names of an offset only the mark of the last record is changed, and that one where
there is no snapshot it could be the mark of. -/
theorem field?_eq (retouched : Retouched stored stored') (distinct : Keyed.Distinct stored)
    {name : String} (known : name ∈ keys) :
    stored'.field? name = stored.field? name ∨
      name = lastRecordKey ∧ stored.hasField snapshotKey = false := by
  cases retouched with
  | put hashable foreign value =>
      left
      rw [Mapping.field?, Keyed.get?_put, foreign.sameKey known]
      rfl
  | dropped foreign => exact .inl (Keyed.get?_erase (foreign.sameKey known) stored)
  | reordered perm => exact .inl (distinct.get?_perm perm _).symm
  | marked idle value =>
      by_cases mark : name = lastRecordKey
      · exact .inr ⟨mark, idle⟩
      · left
        rw [Mapping.field?, Keyed.get?_insert, if_neg mark]
        rfl

theorem read_eq (retouched : Retouched stored stored') (distinct : Keyed.Distinct stored) :
    read stored' = read stored := by
  have same (name : String) (known : name ∈ keys) (other : name ≠ lastRecordKey) :
      stored'.field? name = stored.field? name :=
    (retouched.field?_eq distinct known).resolve_right fun mark => other mark.1
  have marker := same snapshotKey (by decide) (by decide)
  have snapshot : readSnapshot stored' = readSnapshot stored := by
    have known : lastRecordKey ∈ keys := by decide
    -- The mark is looked at only where a snapshot is named.
    obtain record | ⟨-, idle⟩ := retouched.field?_eq distinct known
    · exact readSnapshot_congr marker record
    · have idle' : stored'.hasField snapshotKey = false := by rwa [Mapping.hasField, marker]
      rw [readSnapshot, idle', readSnapshot, idle]
      rfl
  rw [read, read, snapshot, requiredInt_congr (same lsnKey (by decide) (by decide)),
    requiredInt_congr (same txIdKey (by decide) (by decide)),
    optionalInt_congr (same xminKey (by decide) (by decide)),
    optionalInt_congr (same commitMicrosKey (by decide) (by decide))]

end Retouched

/-- After any number of changes a stored offset still has each key once, and it is read as it was. -/
theorem read_eq_of_retouched (distinct : Keyed.Distinct stored)
    (retouched : Relation.ReflTransGen Retouched stored stored') :
    Keyed.Distinct stored' ∧ read stored' = read stored := by
  induction retouched with
  | refl => exact ⟨distinct, rfl⟩
  | tail _ last induction =>
      obtain ⟨distinct, same⟩ := induction
      exact ⟨last.distinct distinct, (last.read_eq distinct).trans same⟩

/-- What was read is written with the numbers that it cannot do without. -/
theorem read_toMapping_of_read {o : Offset} (hread : read stored = .ok o) :
    read o.toMapping = .ok o := by
  obtain ⟨lsn, txId, hlsn, htxId, -⟩ := read_ok hread
  rw [read_toMapping, hlsn, htxId]

end Offset

variable {stored stored' : Mapping}

theorem inspect_congr (source : Source) (same : Offset.read stored = Offset.read stored') :
    inspect source stored = inspect source stored' := by
  rw [inspect, inspect, Tracker.load, Tracker.load, same]

/-- The offset of a report is the one that was read. -/
theorem offset_of_reported {source : Source} {r : Report}
    (reported : (inspect source stored).outcome = .ok r) : Offset.read stored = .ok r.offset := by
  cases hread : Offset.read stored with
  | error error =>
      rw [inspect_of_refused source hread] at reported
      contradiction
  | ok o =>
      rw [inspect_of_read source hread] at reported
      obtain ⟨shows_, -⟩ := Report.shows_of_ofTracker reported
      rw [shows_.offset, Tracker.withOffset_offset]

/-- What an inspection finds depends on nothing but the offset that is stored, and what it reports
of that offset is reported of the offset in the report. -/
theorem inspect_normalises (source : Source) (stored : Mapping) (distinct : Keyed.Distinct stored) :
    (∀ stored', Relation.ReflTransGen Offset.Retouched stored stored' →
      inspect source stored' = inspect source stored) ∧
    ∀ r, (inspect source stored).outcome = .ok r →
      (inspect source r.offset.toMapping).outcome = .ok r := by
  constructor
  · intro stored' retouched
    exact inspect_congr source (Offset.read_eq_of_retouched distinct retouched).2
  · intro r reported
    have hread := offset_of_reported reported
    have again := Offset.read_toMapping_of_read hread
    rw [inspect_congr source (again.trans hread.symm)]
    exact reported

/-- Numbers in other spellings, entries that change places, a key that goes and a mark of no
snapshot. -/
theorem inspect_normalises_spelled :
    let source : Source := ⟨"pg1", "inv", by decide, by decide⟩
    let lsn := (Value.string "lsn", Value.string " 23_886_120 ")
    let txId := (Value.string "txId", Value.float ⟨0x401C000000000000⟩)
    let stored : Mapping := [lsn, (.int 1, .string "x"), txId]
    let stored' : Mapping := [txId, lsn, (.string "last_snapshot_record", .string "x")]
    Keyed.Distinct stored ∧ Relation.ReflTransGen Offset.Retouched stored stored' ∧
      inspect source stored' = inspect source stored ∧
      ∃ r, (inspect source stored).outcome = .ok r ∧
        r.offset.toMapping = [(.string "txId", .int 7), (.string "lsn", .int 23886120)] ∧
        (inspect source r.offset.toMapping).outcome = .ok r := by
  intro source lsn txId stored stored'
  have distinct : Keyed.Distinct stored := by decide +kernel
  have foreign : Offset.Foreign (.int 1) := nofun
  have retouched : Relation.ReflTransGen Offset.Retouched stored stored' := by
    have dropped : Offset.Retouched stored [lsn, txId] := .dropped foreign
    have reordered : Offset.Retouched [lsn, txId] [txId, lsn] := .reordered (.swap ..)
    have marked : Offset.Retouched [txId, lsn] stored' := .marked rfl (.string "x")
    exact .tail (.tail (.single dropped) reordered) marked
  have reads : Offset.read stored = .ok ⟨⟨some 23886120, some 7, none, none⟩, none⟩ := by
    decide +kernel
  have reportable : Position.Reportable ⟨some 23886120, some 7, none, none⟩ :=
    ⟨by decide +kernel, by decide +kernel, rfl, nofun⟩
  obtain ⟨unchanged, normal⟩ := inspect_normalises source stored distinct
  obtain ⟨r, -, made, -⟩ :=
    (Report.reportable_iff ((Tracker.start source).withOffset ⟨_, none⟩)).mp reportable
  have reported : (inspect source stored).outcome = .ok r := by
    rw [inspect_of_read source reads, made]
  have same : r.offset = ⟨⟨some 23886120, some 7, none, none⟩, none⟩ :=
    Except.ok.inj ((offset_of_reported reported).symm.trans reads)
  exact ⟨distinct, retouched, unchanged _ retouched, r, reported, by rw [same]; rfl,
    normal r reported⟩

end WalCheckpoint
