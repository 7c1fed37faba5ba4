import WalCheckpoint.Proofs.Offset.Reading
import WalCheckpoint.Proofs.Value.Numerals

namespace WalCheckpoint.Offset

/-! Refused offsets. A refusal blames the first field, in the order of reading, that holds
nothing it could hold. -/

def requiredKeys : List String := [lsnKey, txIdKey]

def optionalKeys : List String := [xminKey, commitMicrosKey]

theorem not_mem_optionalKeys {field : String} (required : field ∈ requiredKeys) :
    field ∉ optionalKeys := by
  revert field
  decide

def integerKeys : List String := requiredKeys ++ optionalKeys

def readOrder : List String := integerKeys ++ [lastRecordKey]

/-- A field that is not there, or holds null. -/
def Lacks (stored : Mapping) (field : String) : Prop :=
  stored.field? field = none ∨ stored.field? field = some .null

/-- What can be said against a field of a stored offset. Whether the last record was reached
matters only where a snapshot is named. -/
inductive Fault (stored : Mapping) : ReadError → Prop
  | missing {field : String} (required : field ∈ requiredKeys) (lacks : Lacks stored field) :
      Fault stored (.missing field)
  | notInteger {field : String} {value : Value} (integer : field ∈ integerKeys)
      (held : stored.field? field = some value) (filled : value ≠ .null)
      (other : integral? value = none) : Fault stored (.notInteger field value)
  | notBoolean {value : Value} (running : stored.hasField snapshotKey = true)
      (held : stored.field? lastRecordKey = some value) (filled : value ≠ .null)
      (other : ∀ b, value ≠ .bool b) : Fault stored (.notBoolean lastRecordKey value)

def Offends (stored : Mapping) (field : String) : Prop :=
  ∃ error, Fault stored error ∧ error.field = field

variable {stored : Mapping} {field : String} {error : ReadError}

theorem not_lacks {value : Value} (held : stored.field? field = some value)
    (filled : value ≠ .null) : ¬ Lacks stored field := by
  rintro (absent | null)
  · exact absurd (held.symm.trans absent) (Option.some_ne_none _)
  · exact filled (Option.some.inj (held.symm.trans null))

theorem Fault.missing_iff (fault : Fault stored error) :
    error = .missing error.field ↔ error.field ∈ requiredKeys ∧ Lacks stored error.field := by
  cases fault with
  | missing required lacks => exact ⟨fun _ => ⟨required, lacks⟩, fun _ => rfl⟩
  | notInteger integer held filled other =>
      exact ⟨nofun, fun ⟨_, lacks⟩ => absurd lacks (not_lacks held filled)⟩
  | notBoolean running held filled other =>
      refine ⟨nofun, ?_⟩
      rintro ⟨required, -⟩
      exact absurd (show lastRecordKey ∈ requiredKeys from required) (by decide)

theorem Fault.value_eq (fault : Fault stored error) (present : error ≠ .missing error.field) :
    stored.field? error.field = some error.value := by
  cases fault with
  | missing required lacks => exact absurd rfl present
  | notInteger integer held filled other => exact held
  | notBoolean running held filled other => exact held

theorem Fault.field_mem (fault : Fault stored error) : error.field ∈ readOrder := by
  cases fault with
  | missing required lacks => exact List.mem_append_left _ (List.mem_append_left _ required)
  | notInteger integer held filled other => exact List.mem_append_left _ integer
  | notBoolean running held filled other => exact List.mem_append_right _ (List.mem_singleton_self _)

theorem field?_mem {value : Value} (held : stored.field? field = some value) :
    ∃ entry ∈ stored, entry.2 = value := by
  obtain ⟨entry, found, rfl⟩ := Option.map_eq_some_iff.mp held
  exact ⟨entry, List.mem_of_find?_eq_some found, rfl⟩

theorem Fault.isTellable (fault : Fault stored error)
    (tellable : ∀ entry ∈ stored, entry.2.isTellable = true) : error.value.isTellable = true := by
  cases fault with
  | missing required lacks => rfl
  | notInteger integer held filled other =>
      obtain ⟨entry, member, rfl⟩ := field?_mem held
      exact tellable entry member
  | notBoolean running held filled other =>
      obtain ⟨entry, member, rfl⟩ := field?_mem held
      exact tellable entry member

/-! Each reader refuses a field for the fault that can be found with it, and for nothing else. -/

theorem readInt_error {value : Value} :
    readInt field value = .error error ↔
      integral? value = none ∧ error = .notInteger field value := by
  rw [readInt]
  cases integral? value with
  | none => simp [eq_comm]
  | some n => simp

theorem requiredInt_of_filled {value : Value} (held : stored.field? field = some value)
    (filled : value ≠ .null) : requiredInt stored field = readInt field value := by
  rw [requiredInt, held]
  cases value with
  | null => exact absurd rfl filled
  | _ => rfl

theorem optionalInt_of_filled {value : Value} (held : stored.field? field = some value)
    (filled : value ≠ .null) : optionalInt stored field = (readInt field value).map some := by
  rw [optionalInt, held]
  cases value with
  | null => exact absurd rfl filled
  | _ => rfl

theorem lacks_or_filled (stored : Mapping) (field : String) :
    Lacks stored field ∨ ∃ value, stored.field? field = some value ∧ value ≠ .null := by
  rw [Lacks]
  cases stored.field? field with
  | none => exact .inl (.inl rfl)
  | some value =>
      by_cases null : value = .null
      · exact .inl (.inr (congrArg some null))
      · exact .inr ⟨value, rfl, null⟩

theorem requiredInt_of_lacks (lacks : Lacks stored field) :
    requiredInt stored field = .error (.missing field) := by
  rw [requiredInt]
  rcases lacks with absent | null
  · rw [absent]
  · rw [null]

theorem optionalInt_of_lacks (lacks : Lacks stored field) :
    optionalInt stored field = .ok none := by
  rw [optionalInt]
  rcases lacks with absent | null
  · rw [absent]
  · rw [null]

theorem requiredInt_error (required : field ∈ requiredKeys) :
    requiredInt stored field = .error error ↔ Fault stored error ∧ error.field = field := by
  constructor
  · intro refused
    rcases lacks_or_filled stored field with lacks | ⟨value, held, filled⟩
    · rw [requiredInt_of_lacks lacks] at refused
      obtain rfl := Except.error.inj refused
      exact ⟨.missing required lacks, rfl⟩
    · rw [requiredInt_of_filled held filled, readInt_error] at refused
      obtain ⟨other, rfl⟩ := refused
      exact ⟨.notInteger (List.mem_append_left _ required) held filled other, rfl⟩
  · rintro ⟨fault, rfl⟩
    cases fault with
    | missing _ lacks => exact requiredInt_of_lacks lacks
    | notInteger integer held filled other =>
        exact (requiredInt_of_filled held filled).trans (readInt_error.mpr ⟨other, rfl⟩)
    | notBoolean running held filled other =>
        exact absurd (show lastRecordKey ∈ requiredKeys from required) (by decide)

theorem optionalInt_error (optional : field ∈ optionalKeys) :
    optionalInt stored field = .error error ↔ Fault stored error ∧ error.field = field := by
  constructor
  · intro refused
    rcases lacks_or_filled stored field with lacks | ⟨value, held, filled⟩
    · rw [optionalInt_of_lacks lacks] at refused
      contradiction
    · rw [optionalInt_of_filled held filled] at refused
      cases number : readInt field value with
      | ok n =>
          rw [number] at refused
          contradiction
      | error found =>
          rw [number] at refused
          obtain rfl := Except.error.inj refused
          obtain ⟨other, rfl⟩ := readInt_error.mp number
          exact ⟨.notInteger (List.mem_append_right _ optional) held filled other, rfl⟩
  · rintro ⟨fault, rfl⟩
    cases fault with
    | missing required lacks => exact absurd optional (not_mem_optionalKeys required)
    | notInteger integer held filled other =>
        rw [ReadError.field, optionalInt_of_filled held filled,
          readInt_error.mpr ⟨other, rfl⟩]
        rfl
    | notBoolean running held filled other =>
        exact absurd (show lastRecordKey ∈ optionalKeys from optional) (by decide)

theorem readSnapshot_error :
    readSnapshot stored = .error error ↔ Fault stored error ∧ error.field = lastRecordKey := by
  constructor
  · intro refused
    rw [readSnapshot] at refused
    split at refused
    · next running =>
        split at refused
        · contradiction
        · contradiction
        · contradiction
        · next value filled other held =>
            obtain rfl := Except.error.inj refused
            exact ⟨.notBoolean running held filled fun b same => other b same, rfl⟩
    · contradiction
  · rintro ⟨fault, same⟩
    cases fault with
    | missing required lacks =>
        exact absurd (show lastRecordKey ∈ requiredKeys from same ▸ required) (by decide)
    | notInteger integer held filled other =>
        exact absurd (show lastRecordKey ∈ integerKeys from same ▸ integer) (by decide)
    | @notBoolean value running held filled other =>
        rw [readSnapshot, if_pos running, held]
        cases value with
        | null => exact absurd rfl filled
        | bool b => exact absurd rfl (other b)
        | _ => rfl

/-- Of the fields in some order, the first that anything can be said against is blamed. -/
def FirstFault (stored : Mapping) (order : List String) (error : ReadError) : Prop :=
  ∃ before after, order = before ++ error.field :: after ∧ Fault stored error ∧
    ∀ earlier ∈ before, ¬ Offends stored earlier

section Sequence

variable {α β : Type} {reader : Except ReadError α} {rest : α → Except ReadError β}

theorem not_offends_of_read
    (refuses : ∀ {error}, reader = .error error ↔ Fault stored error ∧ error.field = field)
    {a : α} (hread : reader = .ok a) : ¬ Offends stored field := by
  rintro ⟨error, fault, same⟩
  rw [refuses.mpr ⟨fault, same⟩] at hread
  contradiction

theorem FirstFault.bind {order : List String}
    (refuses : ∀ {error}, reader = .error error ↔ Fault stored error ∧ error.field = field)
    (later : ∀ a, rest a = .error error → FirstFault stored order error)
    (refused : reader >>= rest = .error error) : FirstFault stored (field :: order) error := by
  cases hread : reader with
  | error found =>
      rw [hread] at refused
      obtain rfl := Except.error.inj refused
      obtain ⟨fault, rfl⟩ := refuses.mp hread
      exact ⟨[], order, rfl, fault, by simp⟩
  | ok a =>
      rw [hread] at refused
      obtain ⟨before, after, rfl, fault, blameless⟩ := later a refused
      refine ⟨field :: before, after, rfl, fault, ?_⟩
      intro earlier member
      rcases List.mem_cons.mp member with rfl | member
      · exact not_offends_of_read refuses hread
      · exact blameless earlier member

end Sequence

theorem firstFault_of_read (refused : read stored = .error error) :
    FirstFault stored readOrder error := by
  refine .bind (requiredInt_error (by decide)) (fun lsn refused => ?_) refused
  refine .bind (requiredInt_error (by decide)) (fun txId refused => ?_) refused
  refine .bind (optionalInt_error (by decide)) (fun xmin refused => ?_) refused
  refine .bind (optionalInt_error (by decide)) (fun commitMicros refused => ?_) refused
  refine .bind readSnapshot_error (fun snapshot refused => ?_) refused
  contradiction

/-- An offset is refused exactly where something can be said against one of its fields. -/
theorem read_error_iff_offends :
    (∃ error, read stored = .error error) ↔ ∃ field ∈ readOrder, Offends stored field := by
  constructor
  · rintro ⟨error, refused⟩
    obtain ⟨before, after, order, fault, -⟩ := firstFault_of_read refused
    exact ⟨error.field, fault.field_mem, error, fault, rfl⟩
  · rintro ⟨field, member, offends⟩
    cases hread : read stored with
    | error error => exact ⟨error, rfl⟩
    | ok o =>
        obtain ⟨lsn, txId, -, -, hlsn, htxId, hxmin, hcommit, hsnapshot⟩ := read_ok hread
        refine absurd offends ?_
        simp only [readOrder, integerKeys, requiredKeys, optionalKeys, List.cons_append,
          List.nil_append, List.mem_cons, List.not_mem_nil, or_false] at member
        rcases member with rfl | rfl | rfl | rfl | rfl
        · exact not_offends_of_read (requiredInt_error (by decide)) hlsn
        · exact not_offends_of_read (requiredInt_error (by decide)) htxId
        · exact not_offends_of_read (optionalInt_error (by decide)) hxmin
        · exact not_offends_of_read (optionalInt_error (by decide)) hcommit
        · exact not_offends_of_read readSnapshot_error hsnapshot

/-- A refusal has a text unless the value it blames has none. -/
theorem message?_isSome : error.message?.isSome = error.value.isTellable := by
  cases error with
  | missing field => rfl
  | notInteger field value =>
      rw [ReadError.message?, Option.isSome_map, Value.display?_isSome]
      rfl
  | notBoolean field value =>
      rw [ReadError.message?, Option.isSome_map, Value.display?_isSome]
      rfl

end WalCheckpoint.Offset
