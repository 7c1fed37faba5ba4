import WalCheckpoint.Envelope.Schema
import WalCheckpoint.Proofs.Offset.RoundTrip
import WalCheckpoint.Proofs.Tracker.Run

namespace WalCheckpoint

/-! Envelopes against their published shape: they break it by numbers beyond 64 bits and by
nothing else. -/

namespace Tracker

structure WellNamed (t : Tracker) : Prop where
  schema : t.schema ≠ some ""
  table : t.table ≠ some ""

theorem stickyName_ne_empty {known : Option String} (h : known ≠ some "")
    (given : Option String) : stickyName known given ≠ some "" := by
  unfold stickyName
  split
  · next name =>
      split
      · exact h
      · next filled =>
          intro same
          rw [Option.some.inj same] at filled
          exact filled rfl
  · exact h

theorem WellNamed.after {t : Tracker} (h : WellNamed t) (operation : Operation) :
    WellNamed (t.after operation) where
  schema := by
    rw [(t.after_names operation).1]
    exact stickyName_ne_empty h.schema _
  table := by
    rw [(t.after_names operation).2]
    exact stickyName_ne_empty h.table _

theorem wellNamed_run (source : Source) (m : Metrics) (operations : List Operation) :
    WellNamed (run m (start source) operations).tracker :=
  run_induction WellNamed (fun _ operation h => h.after operation) ⟨nofun, nofun⟩

end Tracker

namespace Offset

def numbers (o : Offset) : List (String × Option Int) :=
  [ (commitMicrosKey, o.position.commitMicros), (txIdKey, o.position.txId),
    (lsnKey, o.position.lsn), (xminKey, o.position.xmin) ]

theorem fields_eq (o : Offset) :
    o.fields = o.numbers.flatMap (fun number => intField number.1 number.2) ++
      snapshotFields o.snapshot := by
  simp [fields, numbers]

/-- Each name of a stored offset is one of the six, and only the last record may be unknown. -/
theorem name_mem_keys {o : Offset} {name : String} {value : Value}
    (member : (name, value) ∈ o.fields) :
    name ∈ keys ∧ (value = .null → name = lastRecordKey) := by
  rw [fields_eq, List.mem_append] at member
  rcases member with member | member
  · obtain ⟨⟨number, n⟩, inNumbers, held⟩ := List.mem_flatMap.mp member
    have known : number ∈ keys := by
      simp only [numbers, List.mem_cons, Prod.mk.injEq, List.not_mem_nil, or_false] at inNumbers
      rcases inNumbers with ⟨rfl, -⟩ | ⟨rfl, -⟩ | ⟨rfl, -⟩ | ⟨rfl, -⟩ <;> simp [keys]
    cases n with
    | none => simp [intField] at held
    | some n =>
        obtain ⟨rfl, rfl⟩ := Prod.mk.inj (List.mem_singleton.mp held)
        exact ⟨known, by simp⟩
  · cases running : o.snapshot with
    | none => simp [running, snapshotFields] at member
    | some snapshot =>
        rw [running, snapshotFields, List.mem_pair] at member
        rcases member with marker | record
        · obtain ⟨rfl, rfl⟩ := Prod.mk.inj marker
          exact ⟨by simp [keys], by simp⟩
        · obtain ⟨rfl, rfl⟩ := Prod.mk.inj record
          exact ⟨by simp [keys], fun _ => rfl⟩

end Offset

namespace Envelope

variable {stored : Mapping} {name : String}

/-- How a number breaks the range of 64 bits: not at all, or in one way. -/
def rangeViolations (name : String) : Option Int → List Violation
  | none => []
  | some n =>
      if n < -0x8000000000000000 then [⟨[name], .minimum⟩]
      else if 0x7FFFFFFFFFFFFFFF < n then [⟨[name], .maximum⟩]
      else []

theorem rangeViolations_eq_nil {n : Option Int} :
    rangeViolations name n = [] ↔
      ∀ k, n = some k → -0x8000000000000000 ≤ k ∧ k ≤ 0x7FFFFFFFFFFFFFFF := by
  cases n with
  | none => simp [rangeViolations]
  | some n =>
      rw [rangeViolations]
      split
      · next below =>
          refine ⟨nofun, fun within => ?_⟩
          have := within n rfl
          omega
      · split
        · next above =>
            refine ⟨nofun, fun within => ?_⟩
            have := within n rfl
            omega
        · refine ⟨fun _ k same => ?_, fun _ => rfl⟩
          obtain rfl := Option.some.inj same
          omega

namespace Schema

theorem integer_violations {n : Option Int} (held : stored.field? name = n.map .int) :
    propertyViolations stored (name, int64) = rangeViolations name n := by
  rw [propertyViolations, held]
  cases n with
  | none => rfl
  | some n =>
      simp only [Option.map_some, int64, Clause.brokenKeywords, isInteger, compareInt?,
        Option.some.injEq, Int.compare_eq_lt, Int.compare_eq_gt, rangeViolations]
      by_cases below : n < -0x8000000000000000
      · have : ¬ 0x7FFFFFFFFFFFFFFF < n := by omega
        simp [below, this]
      · by_cases above : 0x7FFFFFFFFFFFFFFF < n <;> simp [below, above]

theorem text_violations {s : String} (held : stored.field? name = some (.string s))
    (filled : s ≠ "") : propertyViolations stored (name, .text 1) = [] := by
  have length : ¬ s.length < 1 := by
    rw [Nat.lt_one_iff, String.length_eq_zero_iff]
    exact filled
  simp [propertyViolations, held, Clause.brokenKeywords, length]

theorem snapshot_violations {snapshot : Option Snapshot}
    (held : stored.field? name = snapshot.map fun _ => .bool true) :
    propertyViolations stored (name, .boolean) = [] := by
  rw [propertyViolations, held]
  cases snapshot <;> rfl

theorem lastRecord_violations {snapshot : Option Snapshot}
    (held : stored.field? name =
      snapshot.map fun s => Offset.ofOptionalBool s.lastRecord) :
    propertyViolations stored (name, .booleanOrNull) = [] := by
  rw [propertyViolations, held]
  rcases snapshot with _ | ⟨_ | reached⟩ <;> rfl

end Schema

section Tracked

variable {t : Tracker} {fields : List (String × Value)}

theorem envelope_ok (hfields : t.envelope = .ok fields) :
    ∃ schema table, t.schema = some schema ∧ t.table = some table ∧
      fields = (Tracker.serverKey, .string t.source.server) ::
        (Tracker.databaseKey, .string t.source.database) ::
        (Tracker.schemaKey, .string schema) :: (Tracker.tableKey, .string table) ::
        t.offset.fields := by
  unfold Tracker.envelope at hfields
  split at hfields
  · next schema table hschema htable =>
      exact ⟨schema, table, hschema, htable, (Except.ok.inj hfields).symm⟩
  · contradiction

theorem field?_envelope (hfields : t.envelope = .ok fields) :
    ∃ schema table, t.schema = some schema ∧ t.table = some table ∧
      ∀ name, (Mapping.ofFields fields).field? name =
        if name = Tracker.serverKey then some (.string t.source.server)
        else if name = Tracker.databaseKey then some (.string t.source.database)
        else if name = Tracker.schemaKey then some (.string schema)
        else if name = Tracker.tableKey then some (.string table)
        else t.offset.toMapping.field? name := by
  obtain ⟨schema, table, hschema, htable, rfl⟩ := envelope_ok hfields
  refine ⟨schema, table, hschema, htable, fun name => ?_⟩
  rw [Offset.toMapping, Mapping.field?_ofFields, Mapping.field?_ofFields]
  simp only [lookup_field]

theorem propertyViolations_envelope (named : t.WellNamed) (hfields : t.envelope = .ok fields) :
    schema.properties.flatMap (Schema.propertyViolations (Mapping.ofFields fields)) =
      t.offset.numbers.flatMap fun number => rangeViolations number.1 number.2 := by
  obtain ⟨schemaName, tableName, hschema, htable, held⟩ := field?_envelope hfields
  have schemaFilled : schemaName ≠ "" := fun same => named.schema (same ▸ hschema)
  have tableFilled : tableName ≠ "" := fun same => named.table (same ▸ htable)
  have hserver := Schema.text_violations (held Tracker.serverKey) t.source.server_ne
  have hdatabase := Schema.text_violations (held Tracker.databaseKey) t.source.database_ne
  have hschema := Schema.text_violations (held Tracker.schemaKey) schemaFilled
  have htable := Schema.text_violations (held Tracker.tableKey) tableFilled
  have hcommit := Schema.integer_violations
    ((held Offset.commitMicrosKey).trans (t.offset.field?_toMapping _))
  have htxId := Schema.integer_violations
    ((held Offset.txIdKey).trans (t.offset.field?_toMapping _))
  have hlsn := Schema.integer_violations
    ((held Offset.lsnKey).trans (t.offset.field?_toMapping _))
  have hxmin := Schema.integer_violations
    ((held Offset.xminKey).trans (t.offset.field?_toMapping _))
  have hsnapshot := Schema.snapshot_violations
    ((held Offset.snapshotKey).trans (t.offset.field?_toMapping _))
  have hlastRecord := Schema.lastRecord_violations
    ((held Offset.lastRecordKey).trans (t.offset.field?_toMapping _))
  simp only [schema, Offset.numbers, List.flatMap_cons, List.flatMap_nil, hserver, hdatabase,
    hcommit, htxId, hlsn, hschema, htable, hsnapshot, hlastRecord, hxmin, List.nil_append]

theorem hasField_envelope (hfields : t.envelope = .ok fields) :
    ∀ name ∈ schema.required, (Mapping.ofFields fields).hasField name = true := by
  obtain ⟨schemaName, tableName, -, -, held⟩ := field?_envelope hfields
  intro name required
  simp only [schema, List.mem_cons, List.not_mem_nil, or_false] at required
  rcases required with rfl | rfl | rfl | rfl <;> rw [Mapping.hasField, held] <;> rfl

theorem requiredViolations_envelope (hfields : t.envelope = .ok fields) :
    schema.required.flatMap (Schema.requiredViolations (Mapping.ofFields fields)) = [] := by
  rw [List.flatMap_eq_nil_iff]
  intro name required
  rw [Schema.requiredViolations, if_pos (hasField_envelope hfields name required)]

theorem dependencyViolations_envelope (hfields : t.envelope = .ok fields) :
    schema.dependencies.flatMap (Schema.dependencyViolations (Mapping.ofFields fields)) = [] := by
  obtain ⟨schemaName, tableName, -, -, held⟩ := field?_envelope hfields
  have hsnapshot : (Mapping.ofFields fields).field? Offset.snapshotKey =
      t.offset.snapshot.map fun _ => .bool true :=
    (held Offset.snapshotKey).trans (t.offset.field?_toMapping _)
  have hlastRecord : (Mapping.ofFields fields).field? Offset.lastRecordKey =
      t.offset.snapshot.map fun s => Offset.ofOptionalBool s.lastRecord :=
    (held Offset.lastRecordKey).trans (t.offset.field?_toMapping _)
  have together : (Mapping.ofFields fields).hasField Offset.snapshotKey =
      (Mapping.ofFields fields).hasField Offset.lastRecordKey := by
    rw [Mapping.hasField, Mapping.hasField, hsnapshot, hlastRecord, Option.isSome_map,
      Option.isSome_map]
  rw [schema, List.flatMap_singleton, Schema.dependencyViolations]
  split
  · next marked => simp [together, marked]
  · rfl

theorem isKnown_of_mem_keys {name : String} (member : name ∈ Offset.keys) :
    schema.isKnown (.string name) = true := by
  revert name
  decide

theorem additionalViolations_envelope (hfields : t.envelope = .ok fields) :
    schema.additionalViolations (Mapping.ofFields fields) = [] := by
  obtain ⟨schemaName, tableName, -, -, rfl⟩ := envelope_ok hfields
  have known : ∀ field ∈ t.offset.fields, schema.isKnown (.string field.1) = true := by
    rintro ⟨name, value⟩ member
    exact isKnown_of_mem_keys (Offset.name_mem_keys member).1
  rw [Schema.additionalViolations, if_pos]
  rw [Mapping.ofFields, List.all_map, List.all_eq_true]
  intro field member
  simp only [List.mem_cons] at member
  rcases member with rfl | rfl | rfl | rfl | member
  · rfl
  · rfl
  · rfl
  · rfl
  · exact known field member

/-- An envelope breaks its shape by numbers out of range alone. -/
theorem violations_of_wellNamed (named : t.WellNamed) (hfields : t.envelope = .ok fields) :
    schema.violations (.map (Mapping.ofFields fields)) =
      t.offset.numbers.flatMap fun number => rangeViolations number.1 number.2 := by
  rw [Schema.violations, propertyViolations_envelope named hfields,
    requiredViolations_envelope hfields, dependencyViolations_envelope hfields,
    additionalViolations_envelope hfields]
  simp only [List.append_nil]

end Tracked

/-- At every point of a run where there is an envelope, it breaks its published shape once for
each known number beyond 64 bits and in no other way. Its offset holds nothing but the names
of an offset, and nothing unknown but the last record of a snapshot. -/
theorem violations_envelope (source : Source) (m : Metrics)
    (operations : List Tracker.Operation) :
    let t := (Tracker.run m (.start source) operations).tracker
    (∀ fields, t.envelope = .ok fields →
      schema.violations (.map (Mapping.ofFields fields)) =
          t.offset.numbers.flatMap (fun number => rangeViolations number.1 number.2) ∧
        (schema.Accepts (.map (Mapping.ofFields fields)) ↔
          ∀ name n, (name, some n) ∈ t.offset.numbers →
            -0x8000000000000000 ≤ n ∧ n ≤ 0x7FFFFFFFFFFFFFFF)) ∧
    ∀ name value, (name, value) ∈ t.offset.fields →
      name ∈ Offset.keys ∧ (value = .null → name = Offset.lastRecordKey) := by
  intro t
  refine ⟨fun fields hfields => ?_, fun name value member => Offset.name_mem_keys member⟩
  have violations := violations_of_wellNamed (Tracker.wellNamed_run source m operations) hfields
  refine ⟨violations, ?_⟩
  rw [Schema.Accepts, violations, List.flatMap_eq_nil_iff]
  constructor
  · intro within name n member
    exact rangeViolations_eq_nil.mp (within (name, some n) member) n rfl
  · rintro within ⟨name, n⟩ member
    refine rangeViolations_eq_nil.mpr fun k same => within name k ?_
    rw [← same]
    exact member

end Envelope

end WalCheckpoint
