import Mathlib.Data.List.TFAE
import Mathlib.Data.Option.Basic
import Mathlib.Tactic.TFAE
import WalCheckpoint.Proofs.Offset.RoundTrip
import WalCheckpoint.Proofs.Time.Sorting
import WalCheckpoint.Proofs.Tracker.Step

namespace WalCheckpoint

open Time

/-! What a recovery and an offset tell of a tracker is the same, and the text of a recovery tells
it too. The texts of commit times sort as the times do. -/

namespace Offset

theorem ofOptionalInt_inj {n n' : Option Int} : ofOptionalInt n = ofOptionalInt n' ↔ n = n' := by
  cases n <;> cases n' <;> simp [ofOptionalInt]

theorem ofOptionalBool_inj {b b' : Option Bool} :
    ofOptionalBool b = ofOptionalBool b' ↔ b = b' := by
  cases b <;> cases b' <;> simp [ofOptionalBool]

theorem map_int_inj {n n' : Option Int} : n.map Value.int = n'.map Value.int ↔ n = n' :=
  (Option.map_injective fun _ _ => Value.int.inj).eq_iff

theorem map_lastRecord_inj {s s' : Option Snapshot} :
    (s.map fun s => ofOptionalBool s.lastRecord) = (s'.map fun s => ofOptionalBool s.lastRecord) ↔
      s = s' := by
  refine (Option.map_injective fun s s' same => ?_).eq_iff
  cases s
  cases s'
  exact congrArg _ (ofOptionalBool_inj.mp same)

/-- An offset is known by what is stored of it under each name. -/
theorem eq_of_field? {o o' : Offset}
    (same : ∀ name, o.toMapping.field? name = o'.toMapping.field? name) : o = o' := by
  obtain ⟨⟨lsn, txId, xmin, commitMicros⟩, snapshot⟩ := o
  obtain ⟨⟨lsn', txId', xmin', commitMicros'⟩, snapshot'⟩ := o'
  simp only [field?_toMapping] at same
  obtain rfl : commitMicros = commitMicros' := map_int_inj.mp (same commitMicrosKey)
  obtain rfl : txId = txId' := map_int_inj.mp (same txIdKey)
  obtain rfl : lsn = lsn' := map_int_inj.mp (same lsnKey)
  obtain rfl : xmin = xmin' := map_int_inj.mp (same xminKey)
  obtain rfl : snapshot = snapshot' := map_lastRecord_inj.mp (same lastRecordKey)
  rfl

end Offset

namespace Recovery

theorem commitTime?_of_within {commitMicros : Option Int}
    (within : ∀ micros ∈ commitMicros,
      DateTime.firstMicros ≤ micros ∧ micros ≤ DateTime.lastMicros) :
    ∃ time, commitTime? commitMicros = .ok time := by
  cases commitMicros with
  | none => exact ⟨none, rfl⟩
  | some micros =>
      obtain ⟨first, last⟩ := within micros rfl
      obtain ⟨time, found, -⟩ := DateTime.ofMicros?_of_within first last
      exact ⟨some time, by rw [commitTime?, found]⟩

theorem within_of_commitTime? {commitMicros : Option Int} {time : Option DateTime}
    (found : commitTime? commitMicros = .ok time) :
    ∀ micros ∈ commitMicros, DateTime.firstMicros ≤ micros ∧ micros ≤ DateTime.lastMicros := by
  rintro micros rfl
  rw [← DateTime.ofMicros?_isSome_iff]
  rw [commitTime?] at found
  cases held : DateTime.ofMicros? micros with
  | none => rw [held] at found; contradiction
  | some time => rfl

/-- The commit time of a recovery is the instant of the stored one, in universal time. -/
theorem commitTime?_ok {commitMicros : Option Int} {time : Option DateTime}
    (found : commitTime? commitMicros = .ok time) :
    commitMicros = time.map DateTime.toMicros ∧ ∀ t ∈ time, t.offset = some .utc := by
  cases commitMicros with
  | none =>
      cases found
      exact ⟨rfl, fun t none => absurd none (Option.not_mem_none t)⟩
  | some micros =>
      obtain ⟨first, last⟩ := within_of_commitTime? found micros rfl
      obtain ⟨t, held, told⟩ := DateTime.ofMicros?_of_within first last
      rw [commitTime?, held] at found
      obtain rfl := Except.ok.inj found
      refine ⟨congrArg some told.symm, fun t' same => ?_⟩
      obtain rfl := Option.some.inj same
      exact DateTime.ofMicros?_offset held

theorem ofOptionalTime_inj {time time' : Option DateTime} (utc : ∀ t ∈ time, t.offset = some .utc)
    (utc' : ∀ t ∈ time', t.offset = some .utc)
    (same : ofOptionalTime time = ofOptionalTime time') : time = time' := by
  cases time with
  | none =>
      cases time' with
      | none => rfl
      | some t' => contradiction
  | some t =>
      cases time' with
      | none => contradiction
      | some t' =>
          exact congrArg some
            (DateTime.iso_injective_of_utc (utc t rfl) (utc' t' rfl) (Value.string.inj same))

/-- Recoveries in universal time are known by what is told of them under each name. -/
theorem eq_of_field? {r r' : Recovery} (utc : ∀ t ∈ r.commitTime, t.offset = some .utc)
    (utc' : ∀ t ∈ r'.commitTime, t.offset = some .utc)
    (same : ∀ name, (Mapping.ofFields r.fields).field? name =
      (Mapping.ofFields r'.fields).field? name) : r = r' := by
  obtain ⟨lsn, txId, xmin, commitTime, inEffect, lastRecord⟩ := r
  obtain ⟨lsn', txId', xmin', commitTime', inEffect', lastRecord'⟩ := r'
  obtain rfl : lsn = lsn' := Offset.ofOptionalInt_inj.mp (Option.some.inj (same "lsn"))
  obtain rfl : txId = txId' := Offset.ofOptionalInt_inj.mp (Option.some.inj (same "tx_id"))
  obtain rfl : xmin = xmin' := Offset.ofOptionalInt_inj.mp (Option.some.inj (same "xmin"))
  obtain rfl : commitTime = commitTime' :=
    ofOptionalTime_inj utc utc' (Option.some.inj (same "commit_time"))
  obtain rfl : inEffect = inEffect' :=
    Value.bool.inj (Option.some.inj (same "snapshot_in_effect"))
  obtain rfl : lastRecord = lastRecord' :=
    Offset.ofOptionalBool_inj.mp (Option.some.inj (same "last_snapshot_record"))
  rfl

end Recovery

/-- A recovery holds all that an offset does. -/
theorem Offset.recovery_ok {o : Offset} {r : Recovery} (told : o.recovery = .ok r) :
    Recovery.commitTime? o.position.commitMicros = .ok r.commitTime ∧
      o = ⟨⟨r.lsn, r.txId, r.xmin, r.commitTime.map DateTime.toMicros⟩,
        if r.snapshotInEffect then some ⟨r.lastSnapshotRecord⟩ else none⟩ := by
  rw [recovery] at told
  cases time : Recovery.commitTime? o.position.commitMicros with
  | error error => rw [time] at told; contradiction
  | ok commitTime =>
      rw [time] at told
      obtain rfl := Except.ok.inj told
      refine ⟨rfl, ?_⟩
      rw [← (Recovery.commitTime?_ok time).1]
      obtain ⟨position, snapshot⟩ := o
      cases snapshot <;> rfl

theorem Recovery.commitTime?_error_iff (commitMicros : Option Int) :
    commitTime? commitMicros = .error .commitTimeOutOfRange ↔
      ∃ micros, commitMicros = some micros ∧
        (micros < DateTime.firstMicros ∨ DateTime.lastMicros < micros) := by
  constructor
  · intro failed
    cases commitMicros with
    | none => contradiction
    | some micros =>
        refine ⟨micros, rfl, ?_⟩
        by_contra within
        obtain ⟨time, found⟩ : ∃ time, commitTime? (some micros) = .ok time :=
          commitTime?_of_within fun micros' same => by
            obtain rfl := Option.some.inj same
            omega
        rw [found] at failed
        contradiction
  · rintro ⟨micros, rfl, outside⟩
    rw [commitTime?, DateTime.ofMicros?_of_outside outside]

theorem Offset.recovery_error_iff (o : Offset) :
    o.recovery = .error .commitTimeOutOfRange ↔
      Recovery.commitTime? o.position.commitMicros = .error .commitTimeOutOfRange := by
  rw [recovery]
  cases Recovery.commitTime? o.position.commitMicros with
  | error error => cases error; exact ⟨fun _ => rfl, fun _ => rfl⟩
  | ok time => exact ⟨fun failed => by contradiction, fun failed => by contradiction⟩

namespace Tracker

/-- A tracker has no recovery exactly where its commit time is outside of the calendar. Two
trackers with recoveries, whatever their sources and runs, have one recovery exactly where they
have one offset, and exactly where what is told of their recoveries is the same; and this is
so whether mappings are compared as they stand or by what they hold under each name. -/
theorem recovery_eq_iff_offset_eq (t t' : Tracker) :
    (t.recovery = .error .commitTimeOutOfRange ↔
      ∃ micros, t.position.commitMicros = some micros ∧
        (micros < -62135596800000000 ∨ 253402300799999999 < micros)) ∧
    ∀ r r', t.recovery = .ok r → t'.recovery = .ok r' →
      [ r = r',
        t.offset.toMapping = t'.offset.toMapping,
        ∀ name, t.offset.toMapping.field? name = t'.offset.toMapping.field? name,
        Mapping.ofFields r.fields = Mapping.ofFields r'.fields,
        ∀ name, (Mapping.ofFields r.fields).field? name =
          (Mapping.ofFields r'.fields).field? name ].TFAE := by
  rw [recovery_eq, recovery_eq]
  constructor
  · rw [Offset.recovery_error_iff, Recovery.commitTime?_error_iff, offset_position]
    rfl
  · intro r r' told told'
    obtain ⟨time, offset⟩ := Offset.recovery_ok told
    obtain ⟨time', offset'⟩ := Offset.recovery_ok told'
    tfae_have 1 → 2 := by
      rintro rfl
      rw [offset, offset']
    tfae_have 2 → 3 := fun same name => by rw [same]
    tfae_have 3 → 1 := by
      intro same
      rw [Offset.eq_of_field? same] at told
      exact Except.ok.inj (told.symm.trans told')
    tfae_have 1 → 4 := by
      rintro rfl
      rfl
    tfae_have 4 → 5 := fun same name => by rw [same]
    tfae_have 5 → 1 :=
      Recovery.eq_of_field? (Recovery.commitTime?_ok time).2 (Recovery.commitTime?_ok time').2
    tfae_finish

/-- Two sources, of which one ran a snapshot to its end and kept the mark, at the last instant of
the calendar. -/
theorem recovery_eq_at_last_instant :
    let t := (run .empty (start ⟨"pg", "shop", by decide, by decide⟩)
      [.startSnapshot, .markLastRecord, .completeSnapshot,
        .updateTimestamp (some 253402300799999999) none]).tracker
    let t' := (run .empty (start ⟨"standby", "shop", by decide, by decide⟩)
      [.updateTimestamp (some 253402300799999999) none]).tracker
    t.lastRecord ≠ t'.lastRecord ∧
      ∃ r r', t.recovery = .ok r ∧ t'.recovery = .ok r' ∧ r = r' ∧
        Mapping.ofFields r.fields = Mapping.ofFields r'.fields := by
  intro t t'
  obtain ⟨r, told⟩ : ∃ r, t.recovery = .ok r := ⟨_, rfl⟩
  obtain ⟨r', told'⟩ : ∃ r', t'.recovery = .ok r' := ⟨_, rfl⟩
  have same := (recovery_eq_iff_offset_eq t t').2 r r' told told'
  have offsets : t.offset.toMapping = t'.offset.toMapping := by decide
  exact ⟨by decide, r, r', told, told', (same.out 0 1).mpr offsets, (same.out 1 3).mp offsets⟩

/-- What is told of a commit time within the calendar. -/
theorem recovery_commitTime {t : Tracker} {micros : Int}
    (held : t.position.commitMicros = some micros) (first : DateTime.firstMicros ≤ micros)
    (last : micros ≤ DateTime.lastMicros) :
    ∃ r time, t.recovery = .ok r ∧
      (Mapping.ofFields r.fields).field? "commit_time" = some (.string (DateTime.iso time)) ∧
      time.offset = some .utc ∧ time.toMicros = micros := by
  obtain ⟨time, found⟩ := Option.isSome_iff_exists.mp
    ((DateTime.ofMicros?_isSome_iff micros).mpr ⟨first, last⟩)
  have told : Recovery.commitTime? t.position.commitMicros = .ok (some time) := by
    rw [held, Recovery.commitTime?, found]
  obtain ⟨utc, same⟩ := DateTime.ofMicros?_eq_some_iff.mp found
  exact ⟨_, time, by rw [recovery, told]; rfl, rfl, utc, same⟩

/-- Of two commit times within the calendar, the text of the earlier one sorts first, whichever of them
has a fraction of a second. -/
theorem commitTime_sorted (t t' : Tracker) {micros micros' : Int}
    (held : t.position.commitMicros = some micros)
    (held' : t'.position.commitMicros = some micros')
    (first : -62135596800000000 ≤ micros) (earlier : micros < micros')
    (last : micros' ≤ 253402300799999999) :
    ∃ r r' text text', t.recovery = .ok r ∧ t'.recovery = .ok r' ∧
      (Mapping.ofFields r.fields).field? "commit_time" = some (.string text) ∧
      (Mapping.ofFields r'.fields).field? "commit_time" = some (.string text') ∧
      Text.Precedes text.toList text'.toList ∧ text ≠ text' := by
  obtain ⟨r, time, told, shown, utc, rfl⟩ :=
    recovery_commitTime held first (Int.le_trans (Int.le_of_lt earlier) last)
  obtain ⟨r', time', told', shown', utc', rfl⟩ :=
    recovery_commitTime held' (Int.le_trans first (Int.le_of_lt earlier)) last
  have sorted : Text.Precedes time.iso.toList time'.iso.toList :=
    DateTime.iso_precedes_of_utc utc utc' (DateTime.reading_precedes_of_utc utc utc' earlier)
  exact ⟨r, r', time.iso, time'.iso, told, told', shown, shown', sorted,
    fun same => sorted.ne (congrArg String.toList same)⟩

/-- Leap day at midnight, without a fraction, and a microsecond later, with one. -/
theorem commitTime_sorted_at_midnight :
    let source : Source := ⟨"pg", "shop", by decide, by decide⟩
    let t := (run .empty (start source) [.updateTimestamp (some 951782400000000) none]).tracker
    let t' := (run .empty (start source) [.updateTimestamp (some 951782400000001) none]).tracker
    t.position.commitMicros = some 951782400000000 ∧
      t'.position.commitMicros = some 951782400000001 ∧
      (t.recovery.map Recovery.commitTime).map Recovery.ofOptionalTime =
        .ok (.string "2000-02-29T00:00:00+00:00") ∧
      (t'.recovery.map Recovery.commitTime).map Recovery.ofOptionalTime =
        .ok (.string "2000-02-29T00:00:00.000001+00:00") ∧
      ∃ r r' text text', t.recovery = .ok r ∧ t'.recovery = .ok r' ∧
        (Mapping.ofFields r.fields).field? "commit_time" = some (.string text) ∧
        (Mapping.ofFields r'.fields).field? "commit_time" = some (.string text') ∧
        Text.Precedes text.toList text'.toList ∧ text ≠ text' := by
  intro source t t'
  exact ⟨rfl, rfl, by decide +kernel, by decide +kernel,
    commitTime_sorted t t' rfl rfl (by decide) (by decide) (by decide)⟩

end Tracker

end WalCheckpoint
