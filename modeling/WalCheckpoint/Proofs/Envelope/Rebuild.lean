import WalCheckpoint.Proofs.Envelope.Contract
import WalCheckpoint.Proofs.Offset.Reading

namespace WalCheckpoint

/-! Trackers rebuilt from envelopes. A tracker that takes its names from an envelope of the
published shape and loads the rest of it writes that envelope again. -/

namespace Value

def whole? : Value → Option Int
  | .int n => some n
  | .float x => x.integral?
  | _ => none

/-- Equal values; a whole number is equal to itself however it is written. -/
def Agrees (v w : Value) : Prop :=
  v = w ∨ ∃ n, v.whole? = some n ∧ w.whole? = some n

end Value

def Mapping.Agrees (m m' : Mapping) : Prop :=
  ∀ key, Option.Rel Value.Agrees (Keyed.get? m key) (Keyed.get? m' key)

theorem agrees_of_eq {v w : Option Value} (same : v = w) : Option.Rel Value.Agrees v w := by
  subst same
  cases v with
  | none => exact .none
  | some v => exact .some (.inl rfl)

namespace Offset

variable {stored : Mapping} {name : String}

theorem integral?_of_whole? {v : Value} {n : Int} (whole : v.whole? = some n) :
    integral? v = some n := by
  cases v with
  | int k => exact whole
  | float x => exact whole
  | _ => contradiction

theorem readInt_of_whole? {v : Value} {n : Int} (whole : v.whole? = some n) :
    readInt name v = .ok n := by
  rw [readInt, integral?_of_whole? whole]

theorem requiredInt_of_whole? {v : Value} {n : Int} (held : stored.field? name = some v)
    (whole : v.whole? = some n) : requiredInt stored name = .ok n := by
  rw [requiredInt, held]
  cases v with
  | null => contradiction
  | _ => exact readInt_of_whole? whole

theorem optionalInt_of_whole? {v : Value} {n : Int} (held : stored.field? name = some v)
    (whole : v.whole? = some n) : optionalInt stored name = .ok (some n) := by
  rw [optionalInt, held]
  cases v with
  | null => contradiction
  | _ => simp only [readInt_of_whole? whole, Except.map]

end Offset

namespace Envelope

variable {e : Mapping} {name : String}

/-! What an accepted envelope holds under a name, by the clause for the name. -/

namespace Schema

theorem accepts_map : schema.Accepts (.map e) ↔
    (∀ property ∈ schema.properties, propertyViolations e property = []) ∧
      (∀ name ∈ schema.required, requiredViolations e name = []) ∧
      (∀ dependency ∈ schema.dependencies, dependencyViolations e dependency = []) ∧
      schema.additionalViolations e = [] := by
  simp only [Accepts, violations, List.append_eq_nil_iff, List.flatMap_eq_nil_iff, and_assoc]

theorem Accepts.unbroken (accepted : schema.Accepts (.map e)) :
    ∀ property ∈ schema.properties, propertyViolations e property = [] :=
  (accepts_map.mp accepted).1

theorem Accepts.hasField (accepted : schema.Accepts (.map e)) (required : name ∈ schema.required) :
    e.hasField name = true := by
  have unbroken := (accepts_map.mp accepted).2.1 name required
  rw [requiredViolations] at unbroken
  split at unbroken
  · assumption
  · contradiction

theorem Accepts.isKnown (accepted : schema.Accepts (.map e)) :
    ∀ entry ∈ e, schema.isKnown entry.1 = true := by
  have unbroken := (accepts_map.mp accepted).2.2.2
  rw [additionalViolations] at unbroken
  split at unbroken
  · next known => exact List.all_eq_true.mp known
  · contradiction

theorem brokenKeywords_eq_nil {clause : Clause} {v : Value}
    (unbroken : propertyViolations e (name, clause) = []) (held : e.field? name = some v) :
    clause.brokenKeywords v = [] := by
  rw [propertyViolations, held] at unbroken
  exact List.map_eq_nil_iff.mp unbroken

theorem text_of_unbroken (unbroken : propertyViolations e (name, .text 1) = [])
    (present : e.hasField name = true) :
    ∃ s, s ≠ "" ∧ e.field? name = some (.string s) := by
  obtain ⟨v, held⟩ := Option.isSome_iff_exists.mp present
  have keywords := brokenKeywords_eq_nil unbroken held
  cases v with
  | string s =>
      refine ⟨s, ?_, held⟩
      rintro rfl
      exact absurd keywords (by decide)
  | _ => exact absurd keywords (List.cons_ne_nil _ _)

theorem whole_of_unbroken {v : Value} (unbroken : propertyViolations e (name, int64) = [])
    (held : e.field? name = some v) : ∃ n, v.whole? = some n := by
  have keywords := brokenKeywords_eq_nil unbroken held
  rw [int64, Clause.brokenKeywords, List.append_eq_nil_iff, List.append_eq_nil_iff] at keywords
  have integer : isInteger v = true := by
    by_contra other
    simp [other] at keywords
  cases v with
  | int n => exact ⟨n, rfl⟩
  | float x => exact Option.isSome_iff_exists.mp integer
  | _ => contradiction

theorem flag_of_unbroken {v : Value} (unbroken : propertyViolations e (name, .booleanOrNull) = [])
    (held : e.field? name = some v) : ∃ flag, v = Offset.ofOptionalBool flag := by
  have keywords := brokenKeywords_eq_nil unbroken held
  cases v with
  | null => exact ⟨none, rfl⟩
  | bool b => exact ⟨some b, rfl⟩
  | _ => exact absurd keywords (List.cons_ne_nil _ _)

end Schema

/-- An envelope of the published shape, as far as a tracker with a position may write it: a
snapshot that is named runs, and whether its last record was reached is told with it. -/
structure Emittable (e : Mapping) : Prop where
  accepted : schema.Accepts (.map e)
  lsn : e.hasField Offset.lsnKey = true
  txId : e.hasField Offset.txIdKey = true
  snapshot : e.field? Offset.snapshotKey = none ∨ e.field? Offset.snapshotKey = some (.bool true)
  lastRecord : e.hasField Offset.lastRecordKey = e.hasField Offset.snapshotKey

def nameAt? (e : Mapping) (key : String) : Option String :=
  match e.field? key with
  | some (.string name) => some name
  | _ => none

/-- The envelope of a tracker made of the names in an envelope, told the table in it, and given
the whole of it to load. There is none where one of these fails. -/
def rebuild? (m : Metrics) (e : Mapping) : Option (List (String × Value)) := do
  let source ← (Source.make (nameAt? e Tracker.serverKey) (nameAt? e Tracker.databaseKey)).toOption
  let table : TableId := ⟨nameAt? e Tracker.schemaKey, nameAt? e Tracker.tableKey⟩
  let told := (Tracker.start source).apply m (.updateTimestamp none (some table))
  let loaded := told.tracker.apply told.metrics (.load e)
  if told.failure = none ∧ loaded.failure = none then loaded.tracker.envelope.toOption else none

section Rebuilding

variable {source : Source} {schemaName tableName : String} {o : Offset}

def written (source : Source) (schemaName tableName : String) (o : Offset) :
    List (String × Value) :=
  (Tracker.serverKey, .string source.server) :: (Tracker.databaseKey, .string source.database) ::
    (Tracker.schemaKey, .string schemaName) :: (Tracker.tableKey, .string tableName) :: o.fields

theorem envelope_of_loaded (schema_ne : schemaName ≠ "") (table_ne : tableName ≠ "")
    (hread : Offset.read e = .ok o) :
    let told := (Tracker.start source).after
      (.updateTimestamp none (some ⟨some schemaName, some tableName⟩))
    (told.after (.load e)).envelope = .ok (written source schemaName tableName o) := by
  intro told
  have hschema : (told.after (.load e)).schema = some schemaName := by
    rw [(told.after_names _).1, ((Tracker.start source).after_names _).1]
    simp [Tracker.Operation.table?, Tracker.stickyName, schema_ne]
  have htable : (told.after (.load e)).table = some tableName := by
    rw [(told.after_names _).2, ((Tracker.start source).after_names _).2]
    simp [Tracker.Operation.table?, Tracker.stickyName, table_ne]
  have hsource : (told.after (.load e)).source = source := by
    rw [Tracker.after_source, Tracker.after_source]
    rfl
  have hoffset : (told.after (.load e)).offset = o := by
    rw [Tracker.after_offset, Tracker.Operation.onOffset, hread]
  rw [Tracker.envelope, hschema, htable, hsource, hoffset]
  rfl

structure Named (e : Mapping) (source : Source) (schemaName tableName : String) : Prop where
  server : e.field? Tracker.serverKey = some (.string source.server)
  database : e.field? Tracker.databaseKey = some (.string source.database)
  schema : e.field? Tracker.schemaKey = some (.string schemaName)
  table : e.field? Tracker.tableKey = some (.string tableName)
  schema_ne : schemaName ≠ ""
  table_ne : tableName ≠ ""

theorem rebuild?_eq (named : Named e source schemaName tableName)
    (hread : Offset.read e = .ok o) (m : Metrics) :
    rebuild? m e = some (written source schemaName tableName o) := by
  have made : Source.make (some source.server) (some source.database) = .ok source := by
    simp [Source.make, source.server_ne, source.database_ne]
  have told (t : Tracker) (table : TableId) :
      (t.apply m (.updateTimestamp none (some table))).failure = none := rfl
  have loaded (t : Tracker) (m : Metrics) : (t.apply m (.load e)).failure = none := by
    rw [Tracker.apply, Tracker.load_failure, hread]
  simp only [rebuild?, nameAt?, named.server, named.database, named.schema, named.table, made,
    Except.toOption, Option.bind_eq_bind, Option.bind_some, told, loaded, Tracker.apply_tracker,
    and_self, if_true, envelope_of_loaded named.schema_ne named.table_ne hread]

theorem get?_eq_none_of_not_known {key : Value}
    (known : ∀ entry ∈ e, schema.isKnown entry.1 = true) (unknown : schema.isKnown key = false) :
    Keyed.get? e key = none := by
  rw [Keyed.get?, Option.map_eq_none_iff, List.find?_eq_none]
  rintro ⟨held, value⟩ member same
  have heldKnown := known _ member
  cases held with
  | string name =>
      cases key with
      | string other =>
          rw [Value.sameKey_string, beq_iff_eq] at same
          rw [same, unknown] at heldKnown
          contradiction
      | _ => contradiction
  | _ => contradiction

theorem Emittable.named (h : Emittable e) :
    ∃ source schemaName tableName, Named e source schemaName tableName := by
  have text (name : String) (member : (name, Clause.text 1) ∈ schema.properties)
      (required : name ∈ schema.required) :=
    Schema.text_of_unbroken (h.accepted.unbroken _ member) (h.accepted.hasField required)
  obtain ⟨server, server_ne, hserver⟩ := text Tracker.serverKey (by decide) (by decide)
  obtain ⟨database, database_ne, hdatabase⟩ := text Tracker.databaseKey (by decide) (by decide)
  obtain ⟨schemaName, schema_ne, hschema⟩ := text Tracker.schemaKey (by decide) (by decide)
  obtain ⟨tableName, table_ne, htable⟩ := text Tracker.tableKey (by decide) (by decide)
  exact ⟨⟨server, database, server_ne, database_ne⟩, schemaName, tableName,
    hserver, hdatabase, hschema, htable, schema_ne, table_ne⟩

theorem Emittable.required (h : Emittable e) (name : String)
    (member : (name, int64) ∈ schema.properties) (present : e.hasField name = true) :
    ∃ n, Offset.requiredInt e name = .ok n ∧
      Option.Rel Value.Agrees (some (.int n)) (e.field? name) := by
  obtain ⟨v, held⟩ := Option.isSome_iff_exists.mp present
  obtain ⟨n, whole⟩ := Schema.whole_of_unbroken (h.accepted.unbroken _ member) held
  refine ⟨n, Offset.requiredInt_of_whole? held whole, ?_⟩
  rw [held]
  exact .some (.inr ⟨n, rfl, whole⟩)

theorem Emittable.optional (h : Emittable e) (name : String)
    (member : (name, int64) ∈ schema.properties) :
    ∃ n : Option Int, Offset.optionalInt e name = .ok n ∧
      Option.Rel Value.Agrees (n.map .int) (e.field? name) := by
  cases held : e.field? name with
  | none =>
      refine ⟨none, ?_, .none⟩
      rw [Offset.optionalInt, held]
  | some v =>
      obtain ⟨n, whole⟩ := Schema.whole_of_unbroken (h.accepted.unbroken _ member) held
      exact ⟨some n, Offset.optionalInt_of_whole? held whole, .some (.inr ⟨n, rfl, whole⟩)⟩

theorem Emittable.snapshotFields (h : Emittable e) :
    ∃ snapshot : Option Snapshot,
      e.field? Offset.snapshotKey = snapshot.map (fun _ => .bool true) ∧
        e.field? Offset.lastRecordKey =
          snapshot.map fun s => Offset.ofOptionalBool s.lastRecord := by
  have paired := h.lastRecord
  rw [Mapping.hasField, Mapping.hasField] at paired
  rcases h.snapshot with absent | running
  · rw [absent] at paired
    exact ⟨none, absent, Option.isNone_iff_eq_none.mp (by simpa using paired)⟩
  · rw [running] at paired
    obtain ⟨v, held⟩ := Option.isSome_iff_exists.mp paired
    obtain ⟨flag, rfl⟩ :=
      Schema.flag_of_unbroken (h.accepted.unbroken (Offset.lastRecordKey, _) (by decide)) held
    exact ⟨some ⟨flag⟩, running, held⟩

theorem Emittable.read (h : Emittable e) :
    ∃ o, Offset.read e = .ok o ∧
      ∀ name ∈ Offset.keys,
        Option.Rel Value.Agrees (o.toMapping.field? name) (e.field? name) := by
  obtain ⟨lsn, hlsn, sameLsn⟩ := h.required Offset.lsnKey (by decide) h.lsn
  obtain ⟨txId, htxId, sameTxId⟩ := h.required Offset.txIdKey (by decide) h.txId
  obtain ⟨xmin, hxmin, sameXmin⟩ := h.optional Offset.xminKey (by decide)
  obtain ⟨commit, hcommit, sameCommit⟩ := h.optional Offset.commitMicrosKey (by decide)
  obtain ⟨snapshot, hmarker, hrecord⟩ := h.snapshotFields
  have hsnapshot := Offset.readSnapshot_of_fields hmarker hrecord
  refine ⟨⟨⟨some lsn, some txId, xmin, commit⟩, snapshot⟩, ?_, ?_⟩
  · rw [Offset.read, hlsn, htxId, hxmin, hcommit, hsnapshot]
    rfl
  · intro name member
    rw [Offset.field?_toMapping]
    simp only [Offset.keys, List.mem_cons, List.not_mem_nil, or_false] at member
    rcases member with rfl | rfl | rfl | rfl | rfl | rfl
    · exact sameCommit
    · exact sameTxId
    · exact sameLsn
    · exact sameXmin
    · exact agrees_of_eq hmarker.symm
    · exact agrees_of_eq hrecord.symm

theorem isKnown_string : schema.isKnown (.string name) = true ↔
    name = Tracker.serverKey ∨ name = Tracker.databaseKey ∨ name = Tracker.schemaKey ∨
      name = Tracker.tableKey ∨ name ∈ Offset.keys := by
  simp only [Schema.isKnown, schema, Offset.keys, List.any_cons, List.any_nil, Bool.or_false,
    Bool.or_eq_true, beq_iff_eq, List.mem_cons, List.not_mem_nil, or_false]
  grind

theorem field?_written (name : String) :
    (Mapping.ofFields (written source schemaName tableName o)).field? name =
      if name = Tracker.serverKey then some (.string source.server)
      else if name = Tracker.databaseKey then some (.string source.database)
      else if name = Tracker.schemaKey then some (.string schemaName)
      else if name = Tracker.tableKey then some (.string tableName)
      else o.toMapping.field? name := by
  rw [Offset.toMapping, Mapping.field?_ofFields, Mapping.field?_ofFields]
  simp only [written, lookup_field]

theorem field?_written_of_mem_keys
    (member : name ∈ Offset.keys) :
    (Mapping.ofFields (written source schemaName tableName o)).field? name =
      o.toMapping.field? name := by
  rw [field?_written]
  simp only [Offset.keys, List.mem_cons, List.not_mem_nil, or_false] at member
  rcases member with rfl | rfl | rfl | rfl | rfl | rfl <;> rfl

theorem read_written {lsn txId : Int} (hlsn : o.position.lsn = some lsn)
    (htxId : o.position.txId = some txId) :
    Offset.read (Mapping.ofFields (written source schemaName tableName o)) = .ok o := by
  rw [Offset.read_congr fun name member => field?_written_of_mem_keys member,
    Offset.read_toMapping, hlsn, htxId]

theorem isKnown_written :
    ∀ entry ∈ Mapping.ofFields (written source schemaName tableName o),
      schema.isKnown entry.1 = true := by
  intro entry inFields
  obtain ⟨⟨name, value⟩, member, rfl⟩ := List.mem_map.mp inFields
  rw [isKnown_string]
  simp only [written, List.mem_cons, Prod.mk.injEq] at member
  rcases member with ⟨rfl, -⟩ | ⟨rfl, -⟩ | ⟨rfl, -⟩ | ⟨rfl, -⟩ | member
  · exact .inl rfl
  · exact .inr (.inl rfl)
  · exact .inr (.inr (.inl rfl))
  · exact .inr (.inr (.inr (.inl rfl)))
  · exact .inr (.inr (.inr (.inr (Offset.name_mem_keys member).1)))

theorem Emittable.agrees (h : Emittable e) (named : Named e source schemaName tableName)
    (same : ∀ name ∈ Offset.keys,
      Option.Rel Value.Agrees (o.toMapping.field? name) (e.field? name)) :
    (Mapping.ofFields (written source schemaName tableName o)).Agrees e := by
  intro key
  cases known : schema.isKnown key with
  | false =>
      rw [get?_eq_none_of_not_known isKnown_written known,
        get?_eq_none_of_not_known h.accepted.isKnown known]
      exact .none
  | true =>
      cases key with
      | string name =>
          rw [← Mapping.field?, ← Mapping.field?]
          rcases isKnown_string.mp known with rfl | rfl | rfl | rfl | member
          · exact agrees_of_eq ((field?_written _).trans named.server.symm)
          · exact agrees_of_eq ((field?_written _).trans named.database.symm)
          · exact agrees_of_eq ((field?_written _).trans named.schema.symm)
          · exact agrees_of_eq ((field?_written _).trans named.table.symm)
          · rw [field?_written_of_mem_keys member]
            exact same name member
      | _ => contradiction

end Rebuilding

section Emitted

variable {t : Tracker} {fields : List (String × Value)}

theorem named_envelope (named : t.WellNamed) (hfields : t.envelope = .ok fields) :
    ∃ schemaName tableName,
      Named (Mapping.ofFields fields) t.source schemaName tableName ∧
        fields = written t.source schemaName tableName t.offset := by
  obtain ⟨schemaName, tableName, hschema, htable, rfl⟩ := envelope_ok hfields
  refine ⟨schemaName, tableName, ⟨?_, ?_, ?_, ?_, ?_, ?_⟩, rfl⟩
  · exact field?_written Tracker.serverKey
  · exact field?_written Tracker.databaseKey
  · exact field?_written Tracker.schemaKey
  · exact field?_written Tracker.tableKey
  · rintro rfl
    exact named.schema hschema
  · rintro rfl
    exact named.table htable

end Emitted

/-- Every envelope of the published shape that a tracker may write is written again by the tracker
rebuilt from it, with whole numbers for floats. What a tracker with a position wrote comes back
as it was. -/
theorem envelope_rebuilt (m : Metrics) :
    (∀ e, Emittable e →
      ∃ fields, rebuild? m e = some fields ∧ (Mapping.ofFields fields).Agrees e) ∧
    ∀ source m' operations fields,
      let t := (Tracker.run m' (.start source) operations).tracker
      t.envelope = .ok fields → t.position.lsn.isSome = true → t.position.txId.isSome = true →
        rebuild? m (Mapping.ofFields fields) = some fields := by
  refine ⟨fun e emittable => ?_, ?_⟩
  · obtain ⟨source, schemaName, tableName, named⟩ := emittable.named
    obtain ⟨o, hread, same⟩ := emittable.read
    exact ⟨_, rebuild?_eq named hread m, emittable.agrees named same⟩
  · intro source m' operations fields t hfields hlsn htxId
    obtain ⟨schemaName, tableName, named, rfl⟩ :=
      named_envelope (Tracker.wellNamed_run source m' operations) hfields
    obtain ⟨lsn, hlsn⟩ := Option.isSome_iff_exists.mp hlsn
    obtain ⟨txId, htxId⟩ := Option.isSome_iff_exists.mp htxId
    exact rebuild?_eq named (read_written hlsn htxId) m

/-- An envelope with a position written as a float and a snapshot of which nothing more is known,
and the envelope of a tracker that was told its position. -/
theorem envelope_rebuilt_from_float :
    let e := Mapping.ofFields
      [ ("lsn", .float ⟨0x40F84A2000000000⟩), ("txId", .int 123), ("snapshot", .bool true),
        ("last_snapshot_record", .null), ("table", .string "orders"), ("schema", .string "public"),
        ("db", .string "shop"), ("name", .string "pg") ]
    let source : Source := ⟨"pg", "shop", by decide, by decide⟩
    let operations : List Tracker.Operation :=
      [.update (some 99490) none (some 123) (some ⟨some "public", some "orders"⟩) none]
    let t := (Tracker.run .empty (.start source) operations).tracker
    (∃ fields, rebuild? .empty e = some fields ∧ (Mapping.ofFields fields).Agrees e) ∧
      ∃ fields, t.envelope = .ok fields ∧
        rebuild? .empty (Mapping.ofFields fields) = some fields := by
  intro e source operations t
  have emittable : Emittable e := ⟨by decide, by decide, by decide, by decide, by decide⟩
  exact ⟨(envelope_rebuilt .empty).1 e emittable, _, rfl,
    (envelope_rebuilt .empty).2 source .empty operations _ rfl rfl rfl⟩

end Envelope

end WalCheckpoint
