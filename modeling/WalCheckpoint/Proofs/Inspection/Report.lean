import Mathlib.Data.List.Nodup
import WalCheckpoint.Inspection.Report
import WalCheckpoint.Proofs.Json.RoundTrip
import WalCheckpoint.Proofs.Offset.Refusal
import WalCheckpoint.Proofs.Offset.RoundTrip
import WalCheckpoint.Proofs.Tracker.Recovery
import WalCheckpoint.Proofs.Value.Overlay

namespace WalCheckpoint

open Time

/-! Reports of stored offsets: which offsets have one, and what its text holds. -/

theorem lookup_eq_of_perm {fields fields' : List (String × Value)} (perm : fields.Perm fields')
    (distinct : (fields.map Prod.fst).Nodup) (name : String) :
    fields.lookup name = fields'.lookup name := by
  rw [← Mapping.field?_ofFields, ← Mapping.field?_ofFields]
  exact (Mapping.distinct_ofFields distinct).get?_perm (perm.map _) _

/-- The numbers that a position knows. -/
def Position.numbers (p : Position) : List Int :=
  [p.commitMicros, p.txId, p.lsn, p.xmin].filterMap id

namespace Offset

theorem isTellable_intField (name : String) (n : Option Int) :
    ((intField name n).all fun field => field.2.isTellable) = (ofOptionalInt n).isTellable := by
  cases n with
  | none => rfl
  | some n => exact Bool.and_true _

theorem isTellable_snapshotFields (snapshot : Option Snapshot) :
    ((snapshotFields snapshot).all fun field => field.2.isTellable) = true := by
  cases snapshot with
  | none => rfl
  | some snapshot =>
      obtain ⟨lastRecord⟩ := snapshot
      cases lastRecord <;> rfl

theorem isTellable_fields (o : Offset) :
    (o.fields.all fun field => field.2.isTellable) =
      ((ofOptionalInt o.position.commitMicros).isTellable &&
        (ofOptionalInt o.position.txId).isTellable && (ofOptionalInt o.position.lsn).isTellable &&
        (ofOptionalInt o.position.xmin).isTellable) := by
  simp only [fields, List.all_append, isTellable_intField, isTellable_snapshotFields,
    Bool.and_true]

theorem hasNames_fields (o : Offset) : (o.fields.all fun field => field.2.hasNames) = true := by
  have number (name : String) (n : Option Int) :
      ((intField name n).all fun field => field.2.hasNames) = true := by
    cases n <;> rfl
  have markers : ((snapshotFields o.snapshot).all fun field => field.2.hasNames) = true := by
    cases o.snapshot with
    | none => rfl
    | some snapshot =>
        obtain ⟨lastRecord⟩ := snapshot
        cases lastRecord <;> rfl
  simp only [fields, List.all_append, number, markers, Bool.and_true]

theorem plain_ofOptionalInt {n : Option Int} (tellable : (ofOptionalInt n).isTellable = true) :
    Json.Plain (ofOptionalInt n) := by
  cases n with
  | none => exact .null
  | some n => exact .int tellable

theorem plain_ofOptionalBool (b : Option Bool) : Json.Plain (ofOptionalBool b) := by
  cases b with
  | none => exact .null
  | some b => exact .bool b

/-- The fields of an offset are the numbers of its position, truth values and nulls. -/
theorem value_of_mem_fields {o : Offset} {field : String × Value} (member : field ∈ o.fields) :
    (∃ n ∈ o.position.numbers, field.2 = .int n) ∨ ∃ b, field.2 = ofOptionalBool b := by
  have number {name : String} {n : Option Int}
      (known : n ∈ [o.position.commitMicros, o.position.txId, o.position.lsn, o.position.xmin])
      (member : field ∈ intField name n) : ∃ n ∈ o.position.numbers, field.2 = .int n := by
    cases n with
    | none => exact absurd member List.not_mem_nil
    | some n =>
        obtain rfl := List.mem_singleton.mp member
        exact ⟨n, List.mem_filterMap.mpr ⟨_, known, rfl⟩, rfl⟩
  simp only [fields, List.mem_append] at member
  rcases member with (((commit | txId) | lsn) | xmin) | marker
  · exact .inl (number (by simp) commit)
  · exact .inl (number (by simp) txId)
  · exact .inl (number (by simp) lsn)
  · exact .inl (number (by simp) xmin)
  · cases snapshot : o.snapshot with
    | none =>
        rw [snapshot] at marker
        exact absurd marker List.not_mem_nil
    | some s =>
        rw [snapshot, snapshotFields, List.mem_cons, List.mem_singleton] at marker
        rcases marker with rfl | rfl
        · exact .inr ⟨some true, rfl⟩
        · exact .inr ⟨s.lastRecord, rfl⟩

theorem plain_of_mem_fields {o : Offset} {field : String × Value} (member : field ∈ o.fields)
    (tellable : field.2.isTellable = true) : Json.Plain field.2 := by
  rcases value_of_mem_fields member with ⟨n, -, number⟩ | ⟨b, flag⟩
  · rw [number] at tellable ⊢
    exact .int tellable
  · rw [flag]
    exact plain_ofOptionalBool b

end Offset

/-- Positions that a report can show: their numbers have a text, and the commit lies within the
calendar. -/
structure Position.Reportable (p : Position) : Prop where
  lsn : (Offset.ofOptionalInt p.lsn).isTellable = true
  txId : (Offset.ofOptionalInt p.txId).isTellable = true
  xmin : (Offset.ofOptionalInt p.xmin).isTellable = true
  commit : ∀ micros ∈ p.commitMicros,
    DateTime.firstMicros ≤ micros ∧ micros ≤ DateTime.lastMicros

theorem Position.Reportable.isTellable_commit {p : Position} (reportable : p.Reportable) :
    (Offset.ofOptionalInt p.commitMicros).isTellable = true := by
  cases held : p.commitMicros with
  | none => rfl
  | some micros =>
      obtain ⟨first, last⟩ := reportable.commit micros held
      rw [DateTime.firstMicros] at first
      rw [DateTime.lastMicros] at last
      exact Value.isTellable_of_natAbs_lt (by omega)

namespace Tracker

theorem describeInt_isSome (label : String) (n : Option Int) :
    (describeInt label n).isSome = (Offset.ofOptionalInt n).isTellable := by
  cases n with
  | none => rfl
  | some n => rw [describeInt, Option.isSome_map, Offset.ofOptionalInt, Value.isTellable_int]

theorem describe?_isSome (t : Tracker) :
    t.describe?.isSome = ((Offset.ofOptionalInt t.position.txId).isTellable &&
      (Offset.ofOptionalInt t.position.xmin).isTellable &&
      (Offset.ofOptionalInt t.position.commitMicros).isTellable) := by
  rw [← describeInt_isSome "txId=", ← describeInt_isSome "xmin=", ← describeInt_isSome "useconds=",
    describe?]
  cases describeInt "txId=" t.position.txId with
  | none => rfl
  | some txId =>
      cases describeInt "xmin=" t.position.xmin with
      | none => rfl
      | some xmin => cases describeInt "useconds=" t.position.commitMicros <;> rfl

end Tracker

namespace Report

open Json (Plain)

theorem plain_sortedFields {fields : List (String × Value)}
    (distinct : (fields.map Prod.fst).Nodup) (plain : ∀ field ∈ fields, Plain field.2) :
    Plain (sortedFields fields) := by
  have perm := List.mergeSort_perm fields fun left right => left.1 ≤ right.1
  exact .map ((perm.map Prod.fst).nodup_iff.mpr distinct)
    fun field member => plain field (perm.mem_iff.mp member)

theorem field?_sortedFields {fields : List (String × Value)}
    (distinct : (fields.map Prod.fst).Nodup) :
    ∃ m : Mapping, sortedFields fields = .map m ∧ ∀ name, m.field? name = fields.lookup name := by
  have perm := List.mergeSort_perm fields fun left right => left.1 ≤ right.1
  refine ⟨_, rfl, fun name => ?_⟩
  rw [Mapping.field?_ofFields, lookup_eq_of_perm perm.symm distinct]

theorem isTellable_sortedFields (fields : List (String × Value)) :
    (sortedFields fields).isTellable = fields.all fun field => field.2.isTellable := by
  rw [sortedFields, Mapping.isTellable_ofFields]
  exact (List.mergeSort_perm fields _).all_eq

theorem hasNames_sortedFields (fields : List (String × Value)) :
    (sortedFields fields).hasNames = fields.all fun field => field.2.hasNames := by
  rw [sortedFields, Mapping.hasNames_ofFields]
  exact (List.mergeSort_perm fields _).all_eq

/-- A report shows what its tracker holds. -/
structure Shows (t : Tracker) (r : Report) : Prop where
  partition : r.partition = t.source.partition
  offset : r.offset = t.offset
  recovery : t.recovery = .ok r.recovery
  lsnText : r.lsnText = t.position.lsn.map Lsn.format

theorem shows_of_ofTracker {t : Tracker} {r : Report} (made : ofTracker t = .ok r) :
    Shows t r ∧ t.describe?.isSome = true := by
  rw [ofTracker] at made
  cases recovered : t.recovery with
  | error error => rw [recovered] at made; contradiction
  | ok recovery =>
      rw [recovered] at made
      cases described : t.describe? with
      | none => rw [described] at made; contradiction
      | some description =>
          rw [described] at made
          obtain rfl := Except.ok.inj made
          exact ⟨⟨rfl, rfl, recovered, rfl⟩, rfl⟩

theorem recovery_ok {t : Tracker} {recovery : Recovery} (recovered : t.recovery = .ok recovery) :
    Recovery.commitTime? t.position.commitMicros = .ok recovery.commitTime ∧
      recovery.lsn = t.position.lsn ∧ recovery.txId = t.position.txId ∧
      recovery.xmin = t.position.xmin ∧ recovery.snapshotInEffect = t.inSnapshot := by
  rw [Tracker.recovery] at recovered
  cases time : Recovery.commitTime? t.position.commitMicros with
  | error error => rw [time] at recovered; contradiction
  | ok time' =>
      rw [time] at recovered
      obtain rfl := Except.ok.inj recovered
      exact ⟨rfl, rfl, rfl, rfl, rfl⟩

theorem plain_recoveryFields {t : Tracker} {r : Report} (shows_ : Shows t r)
    (reportable : t.position.Reportable) : ∀ field ∈ r.recoveryFields, Plain field.2 := by
  obtain ⟨-, lsn, txId, xmin, -⟩ := recovery_ok shows_.recovery
  intro field member
  rw [recoveryFields, List.mem_append] at member
  rcases member with known | text
  · simp only [Recovery.fields, Recovery.fieldsOf, List.mem_cons, List.not_mem_nil, or_false] at known
    rcases known with rfl | rfl | rfl | rfl | rfl | rfl
    · exact Offset.plain_ofOptionalInt (lsn ▸ reportable.lsn)
    · exact Offset.plain_ofOptionalInt (txId ▸ reportable.txId)
    · exact Offset.plain_ofOptionalInt (xmin ▸ reportable.xmin)
    · cases time : r.recovery.commitTime with
      | none => exact .null
      | some t => exact .string _
    · exact .bool _
    · exact Offset.plain_ofOptionalBool _
  · cases written : r.lsnText with
    | none =>
        rw [written] at text
        exact absurd text List.not_mem_nil
    | some s =>
        rw [written] at text
        obtain rfl := List.mem_singleton.mp text
        exact .string s

theorem recoveryFields_distinct (r : Report) : (r.recoveryFields.map Prod.fst).Nodup := by
  rw [recoveryFields, List.map_append]
  cases r.lsnText with
  | none => exact (by decide : ["lsn", "tx_id", "xmin", "commit_time", "snapshot_in_effect",
      "last_snapshot_record"].Nodup)
  | some text => exact (by decide : ["lsn", "tx_id", "xmin", "commit_time", "snapshot_in_effect",
      "last_snapshot_record", "lsn_text"].Nodup)

theorem hasNames_recoveryFields (r : Report) :
    (r.recoveryFields.all fun field => field.2.hasNames) = true := by
  obtain ⟨partition, offset, ⟨lsn, txId, xmin, time, inEffect, lastRecord⟩, lsnText, description⟩ := r
  cases lsn <;> cases txId <;> cases xmin <;> cases time <;> cases lastRecord <;>
    cases lsnText <;> rfl

theorem partitionFields_of_shows {t : Tracker} {r : Report} (shows_ : Shows t r) :
    r.partitionFields = [(Source.partitionKey, .string t.source.server)] := by
  rw [partitionFields, shows_.partition]
  rfl

theorem hasNames_toValue (r : Report) : r.toValue.hasNames = true := by
  have partition : (r.partitionFields.all fun field => field.2.hasNames) = true :=
    List.all_eq_true.mpr fun field member => by
      obtain ⟨held, -, rfl⟩ := List.mem_map.mp member
      rfl
  rw [toValue, hasNames_sortedFields]
  simp only [List.all_cons, List.all_nil, hasNames_sortedFields, partition, r.offset.hasNames_fields,
    r.hasNames_recoveryFields]
  rfl

theorem plain_toValue {t : Tracker} {r : Report} (shows_ : Shows t r)
    (reportable : t.position.Reportable) : Plain r.toValue := by
  have tellable : (r.offset.fields.all fun field => field.2.isTellable) = true := by
    rw [shows_.offset, Offset.isTellable_fields, Tracker.offset_position,
      reportable.isTellable_commit, reportable.txId,
      reportable.lsn, reportable.xmin]
    rfl
  refine plain_sortedFields
    (by decide : ["partition", "offset", "recovery", "source_info"].Nodup) ?_
  intro field member
  simp only [List.mem_cons, List.not_mem_nil, or_false] at member
  rcases member with rfl | rfl | rfl | rfl
  · rw [partitionFields_of_shows shows_]
    refine plain_sortedFields (List.nodup_singleton _) fun field member => ?_
    obtain rfl := List.mem_singleton.mp member
    exact .string _
  · exact plain_sortedFields r.offset.fields_distinct fun field member =>
      Offset.plain_of_mem_fields member (List.all_eq_true.mp tellable field member)
  · exact plain_sortedFields r.recoveryFields_distinct (plain_recoveryFields shows_ reportable)
  · exact .string _

theorem text?_of_plain {r : Report} (plain : Plain r.toValue) :
    r.text? = .ok (String.ofList (Json.write (.indented 2) 0 r.toValue) ++ "\n") := by
  rw [text?, plain.image]
  rfl

theorem isTellable_of_text? {r : Report} {text : String} (written : r.text? = .ok text) :
    (r.offset.fields.all fun field => field.2.isTellable) = true := by
  obtain ⟨image, image?⟩ := Json.image?_eq r.toValue r.hasNames_toValue
  rw [text?, image?] at written
  cases tellable : r.toValue.isTellable with
  | false =>
      rw [tellable] at written
      contradiction
  | true =>
      rw [toValue, isTellable_sortedFields] at tellable
      simp only [List.all_cons, Bool.and_eq_true, isTellable_sortedFields] at tellable
      exact tellable.2.1

/-- A position has a report exactly where each of its numbers has a text and its commit a time. -/
theorem reportable_iff (t : Tracker) :
    t.position.Reportable ↔ ∃ r text, ofTracker t = .ok r ∧ r.text? = .ok text := by
  constructor
  · intro reportable
    obtain ⟨time, found⟩ := Recovery.commitTime?_of_within reportable.commit
    have described : t.describe?.isSome = true := by
      rw [Tracker.describe?_isSome, reportable.txId, reportable.xmin,
        reportable.isTellable_commit]
      rfl
    obtain ⟨description, told⟩ := Option.isSome_iff_exists.mp described
    obtain ⟨r, made⟩ : ∃ r, ofTracker t = .ok r := by
      rw [ofTracker, Tracker.recovery, found, told]
      exact ⟨_, rfl⟩
    obtain ⟨shows_, -⟩ := shows_of_ofTracker made
    exact ⟨r, _, made, text?_of_plain (plain_toValue shows_ reportable)⟩
  · rintro ⟨r, text, made, written⟩
    obtain ⟨shows_, described⟩ := shows_of_ofTracker made
    obtain ⟨time, -⟩ := recovery_ok shows_.recovery
    have tellable := isTellable_of_text? written
    rw [shows_.offset, Offset.isTellable_fields] at tellable
    simp only [Bool.and_eq_true, Tracker.offset_position] at tellable
    obtain ⟨⟨⟨-, txId⟩, lsn⟩, xmin⟩ := tellable
    exact ⟨lsn, txId, xmin, Recovery.within_of_commitTime? time⟩

/-- What the document of a report says of a stored offset. -/
structure Faithful (source : Source) (stored document : Mapping) : Prop where
  partition : document.field? "partition" =
    some (.map (Mapping.ofFields [("server", .string source.server)]))
  offset : ∃ offset : Mapping, document.field? "offset" = some (.map offset) ∧
    (∀ name ∈ Offset.integerKeys,
      offset.field? name = (Offset.storedInt? stored name).map .int) ∧
    offset.field? Offset.snapshotKey =
      (if stored.hasField Offset.snapshotKey then some (.bool true) else none) ∧
    offset.hasField Offset.lastRecordKey = stored.hasField Offset.snapshotKey
  recovery : ∃ recovery : Mapping, document.field? "recovery" = some (.map recovery) ∧
    recovery.field? "snapshot_in_effect" = some (.bool (stored.hasField Offset.snapshotKey)) ∧
    ∃ lsn, Offset.storedInt? stored Offset.lsnKey = some lsn ∧
      recovery.field? "lsn_text" = some (.string (Lsn.format lsn))

variable {source : Source} {stored : Mapping} {o : Offset} {r : Report}

theorem lookup_fields (hread : Offset.read stored = .ok o) :
    (∀ name ∈ Offset.integerKeys,
      o.fields.lookup name = (Offset.storedInt? stored name).map .int) ∧
      o.fields.lookup Offset.snapshotKey =
        (if stored.hasField Offset.snapshotKey then some (.bool true) else none) ∧
      (o.fields.lookup Offset.lastRecordKey).isSome = stored.hasField Offset.snapshotKey := by
  obtain ⟨lsn, txId, hlsn, htxId, readLsn, readTxId, readXmin, readCommit, readSnapshot⟩ :=
    Offset.read_ok hread
  have lookup (name : String) : o.fields.lookup name = _ :=
    (Mapping.field?_ofFields o.fields name).symm.trans (Offset.field?_toMapping o name)
  obtain ⟨running, -⟩ := Offset.readSnapshot_ok readSnapshot
  refine ⟨?_, ?_, ?_⟩
  · intro name member
    simp only [Offset.integerKeys, Offset.requiredKeys, Offset.optionalKeys, List.cons_append,
      List.nil_append, List.mem_cons, List.not_mem_nil, or_false] at member
    rcases member with rfl | rfl | rfl | rfl
    · rw [lookup, Offset.requiredInt_ok readLsn, hlsn]
      rfl
    · rw [lookup, Offset.requiredInt_ok readTxId, htxId]
      rfl
    · rw [lookup, Offset.optionalInt_ok readXmin]
      rfl
    · rw [lookup, Offset.optionalInt_ok readCommit]
      rfl
  · rw [lookup, ← running]
    cases o.snapshot <;> rfl
  · rw [lookup, ← running]
    cases o.snapshot <;> rfl

theorem faithful_of_read (hread : Offset.read stored = .ok o)
    (shows_ : Shows ((Tracker.start source).withOffset o) r) :
    ∃ document, r.toValue = .map document ∧ Faithful source stored document := by
  obtain ⟨numbers, marker, lastRecord⟩ := lookup_fields hread
  obtain ⟨lsn, txId, hlsn, -, readLsn, -, -, -, readSnapshot⟩ := Offset.read_ok hread
  obtain ⟨running, -⟩ := Offset.readSnapshot_ok readSnapshot
  have distinct : [("partition", sortedFields r.partitionFields),
      ("offset", sortedFields r.offset.fields), ("recovery", sortedFields r.recoveryFields),
      ("source_info", Value.string r.description)].map Prod.fst |>.Nodup :=
    (by decide : ["partition", "offset", "recovery", "source_info"].Nodup)
  obtain ⟨document, written, held⟩ := field?_sortedFields distinct
  refine ⟨document, written, ?_, ?_, ?_⟩
  · have single : sortedFields r.partitionFields =
        .map (Mapping.ofFields [("server", .string source.server)]) := by
      rw [partitionFields_of_shows shows_, sortedFields, List.mergeSort_singleton]
      rfl
    exact (held _).trans (congrArg some single)
  · have offset : r.offset = o := shows_.offset.trans (Tracker.withOffset_offset _ o)
    obtain ⟨m, shown, found⟩ := field?_sortedFields r.offset.fields_distinct
    rw [offset] at found
    refine ⟨m, (held _).trans (congrArg some shown), fun name member => ?_, ?_, ?_⟩
    · rw [found, numbers name member]
    · rw [found, marker]
    · rw [Mapping.hasField, found, lastRecord]
  · obtain ⟨-, -, -, -, inEffect⟩ := recovery_ok shows_.recovery
    obtain ⟨m, shown, found⟩ := field?_sortedFields r.recoveryFields_distinct
    refine ⟨m, (held _).trans (congrArg some shown), ?_, lsn, Offset.requiredInt_ok readLsn, ?_⟩
    · rw [found, ← running]
      exact congrArg (fun b => some (Value.bool b)) inEffect
    · have text : r.lsnText = some (Lsn.format lsn) :=
        shows_.lsnText.trans (congrArg (Option.map Lsn.format) hlsn)
      rw [found, recoveryFields, text]
      rfl

end Report

section Outcome

variable (source : Source) {stored : Mapping}

theorem inspect_of_refused {error : Offset.ReadError} (refused : Offset.read stored = .error error) :
    inspect source stored =
      ⟨[Tracker.initialized source], .error (.unreadableOffset error)⟩ := by
  rw [inspect, Tracker.load, refused]

theorem inspect_of_read {o : Offset} (hread : Offset.read stored = .ok o) :
    inspect source stored =
      ⟨[Tracker.initialized source, ((Tracker.start source).withOffset o).offsetLoaded],
        Report.ofTracker ((Tracker.start source).withOffset o)⟩ := by
  rw [inspect, Tracker.load, hread]

end Outcome

end WalCheckpoint
