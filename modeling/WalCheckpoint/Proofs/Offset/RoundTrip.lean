import Mathlib.Data.List.Nodup
import WalCheckpoint.Offset

namespace WalCheckpoint

/-! What a stored offset holds under each name, and what comes back when it is read. -/

theorem lookup_field (key name : String) (value : Value)
    (rest : List (String × Value)) :
    ((name, value) :: rest).lookup key =
      if key = name then some value else rest.lookup key := by
  rw [List.lookup_cons]
  by_cases same : key = name
  · simp [same]
  · rw [beq_false_of_ne same, if_neg same]

theorem Mapping.field?_ofFields (fields : List (String × Value)) (name : String) :
    field? (ofFields fields) name = fields.lookup name := by
  induction fields with
  | nil => rfl
  | cons field rest induction =>
      obtain ⟨key, value⟩ := field
      rw [lookup_field, ← induction]
      by_cases same : name = key
      · simp [field?, Keyed.get?, ofFields, same]
      · simp [field?, Keyed.get?, ofFields, same, Ne.symm same]

namespace Offset

@[simp] theorem lookup_intField (name key : String) (n : Option Int) :
    (intField name n).lookup key = if key = name then n.map .int else none := by
  cases n with
  | none => simp [intField]
  | some n => rw [intField, lookup_field]; rfl

@[simp] theorem lookup_snapshotFields (key : String) (snapshot : Option Snapshot) :
    (snapshotFields snapshot).lookup key =
      if key = snapshotKey then snapshot.map fun _ => .bool true
      else if key = lastRecordKey then snapshot.map fun s => ofOptionalBool s.lastRecord
      else none := by
  cases snapshot with
  | none => simp [snapshotFields]
  | some snapshot => rw [snapshotFields, lookup_field, lookup_field]; rfl

private theorem lookup_intField_append {name : String} {rest : List (String × Value)}
    (absent : rest.lookup name = none) (key : String) (n : Option Int) :
    (intField name n ++ rest).lookup key =
      if key = name then n.map .int else rest.lookup key := by
  rw [List.lookup_append, lookup_intField]
  by_cases same : key = name
  · subst same
    simp [absent]
  · simp [same]

/-- The value of a stored offset under each name. No name hides another. -/
theorem field?_toMapping (o : Offset) (name : String) :
    o.toMapping.field? name =
      if name = commitMicrosKey then o.position.commitMicros.map .int
      else if name = txIdKey then o.position.txId.map .int
      else if name = lsnKey then o.position.lsn.map .int
      else if name = xminKey then o.position.xmin.map .int
      else if name = snapshotKey then o.snapshot.map fun _ => .bool true
      else if name = lastRecordKey then o.snapshot.map fun s => ofOptionalBool s.lastRecord
      else none := by
  rw [toMapping, Mapping.field?_ofFields, fields]
  simp only [List.append_assoc]
  rw [lookup_intField_append, lookup_intField_append, lookup_intField_append,
    lookup_intField_append, lookup_snapshotFields]
  all_goals simp [List.lookup_append, txIdKey, lsnKey, xminKey, commitMicrosKey, snapshotKey,
    lastRecordKey]

theorem requiredInt_of_field {stored : Mapping} {field : String} {n : Option Int}
    (held : stored.field? field = n.map .int) :
    requiredInt stored field = n.elim (.error (.missing field)) .ok := by
  rw [requiredInt, held]
  cases n <;> rfl

theorem optionalInt_of_field {stored : Mapping} {field : String} {n : Option Int}
    (held : stored.field? field = n.map .int) :
    optionalInt stored field = .ok n := by
  rw [optionalInt, held]
  cases n <;> rfl

theorem readSnapshot_of_fields {stored : Mapping} {snapshot : Option Snapshot}
    (hmarker : stored.field? snapshotKey = snapshot.map fun _ => .bool true)
    (hrecord : stored.field? lastRecordKey =
      snapshot.map fun s => ofOptionalBool s.lastRecord) :
    readSnapshot stored = .ok snapshot := by
  rw [readSnapshot, Mapping.hasField, hmarker, hrecord]
  cases snapshot with
  | none => rfl
  | some snapshot =>
      obtain ⟨reached⟩ := snapshot
      cases reached <;> rfl

/-- An offset is read back from what is stored of it where it names a position and a
transaction; elsewhere the first of the two that lacks is reported. -/
theorem read_toMapping (o : Offset) :
    read o.toMapping =
      match o.position.lsn, o.position.txId with
      | some _, some _ => .ok o
      | some _, none => .error (.missing txIdKey)
      | none, _ => .error (.missing lsnKey) := by
  have hlsn : requiredInt o.toMapping lsnKey =
      o.position.lsn.elim (.error (.missing lsnKey)) .ok :=
    requiredInt_of_field (field?_toMapping o lsnKey)
  have htxId : requiredInt o.toMapping txIdKey =
      o.position.txId.elim (.error (.missing txIdKey)) .ok :=
    requiredInt_of_field (field?_toMapping o txIdKey)
  have hxmin : optionalInt o.toMapping xminKey = .ok o.position.xmin :=
    optionalInt_of_field (field?_toMapping o xminKey)
  have hcommit : optionalInt o.toMapping commitMicrosKey = .ok o.position.commitMicros :=
    optionalInt_of_field (field?_toMapping o commitMicrosKey)
  have hsnapshot : readSnapshot o.toMapping = .ok o.snapshot :=
    readSnapshot_of_fields (field?_toMapping o snapshotKey)
      (field?_toMapping o lastRecordKey)
  rw [read, hlsn, htxId, hxmin, hcommit, hsnapshot]
  obtain ⟨⟨lsn, txId, xmin, commitMicros⟩, snapshot⟩ := o
  cases lsn with
  | none => rfl
  | some lsn =>
      cases txId with
      | none => rfl
      | some txId => rfl

/-! No name is stored twice. -/

theorem names_sublist (o : Offset) : (o.fields.map Prod.fst).Sublist keys := by
  have number (name : String) (n : Option Int) :
      ((intField name n).map Prod.fst).Sublist [name] := by
    cases n with
    | none => exact List.nil_sublist _
    | some n => exact List.Sublist.refl _
  have markers : ((snapshotFields o.snapshot).map Prod.fst).Sublist
      [snapshotKey, lastRecordKey] := by
    cases o.snapshot with
    | none => exact List.nil_sublist _
    | some snapshot => exact List.Sublist.refl _
  simp only [fields, List.map_append]
  exact ((((number _ _).append (number _ _)).append (number _ _)).append (number _ _)).append
    markers

theorem fields_distinct (o : Offset) : (o.fields.map Prod.fst).Nodup :=
  o.names_sublist.nodup (by decide)

end Offset

end WalCheckpoint
