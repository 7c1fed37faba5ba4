import WalCheckpoint.Proofs.Binary64.Exact
import WalCheckpoint.Proofs.Offset.Refusal
import WalCheckpoint.Proofs.Text.Numeral

namespace WalCheckpoint.Offset

/-! The offsets that can be read, and the numbers that are read from them. -/

/-- What a stored value stands for as a whole number: a whole number itself, a float without a
fractional part, or a numeral. -/
inductive Denotes : Value → Int → Prop
  | int {n : Int} : Denotes (.int n) n
  | float {x : Binary64} {n : Int} (exact : x.rational? = some (n : ℚ)) : Denotes (.float x) n
  | string {s : String} {n : Int} (spelled : Text.Numeral.Spells s.toList n) :
      Denotes (.string s) n

theorem integral?_eq_some_iff {v : Value} {n : Int} : integral? v = some n ↔ Denotes v n := by
  cases v with
  | int m =>
      constructor
      · intro read
        obtain rfl := Option.some.inj read
        exact .int
      · rintro ⟨⟩
        rfl
  | float x =>
      refine Binary64.integral?_eq_some_iff.trans ⟨.float, ?_⟩
      rintro ⟨⟩
      assumption
  | string s =>
      refine Text.Numeral.decimal?_eq_some_iff.trans ⟨.string, ?_⟩
      rintro ⟨⟩
      assumption
  | _ => exact iff_of_false nofun nofun

theorem Denotes.unique {v : Value} {n n' : Int} (denotes : Denotes v n) (denotes' : Denotes v n') :
    n = n' :=
  Option.some.inj ((integral?_eq_some_iff.mpr denotes).symm.trans
    (integral?_eq_some_iff.mpr denotes'))

variable {stored stored' : Mapping} {field : String}

/-- A number under a name; no number stands for a name that is not there or has null. -/
def Holds (stored : Mapping) (field : String) : Option Int → Prop
  | none => Lacks stored field
  | some n => ∃ v, stored.field? field = some v ∧ Denotes v n

/-- Whether the last record was reached, as far as a stored offset says so. -/
def HoldsFlag (stored : Mapping) : Option Bool → Prop
  | none => Lacks stored lastRecordKey
  | some b => stored.field? lastRecordKey = some (.bool b)

def HoldsSnapshot (stored : Mapping) : Option Snapshot → Prop
  | none => stored.hasField snapshotKey = false
  | some snapshot => stored.hasField snapshotKey = true ∧ HoldsFlag stored snapshot.lastRecord

/-- What a stored offset stands for. -/
structure Stands (stored : Mapping) (o : Offset) : Prop where
  lsn : o.position.lsn.isSome = true ∧ Holds stored lsnKey o.position.lsn
  txId : o.position.txId.isSome = true ∧ Holds stored txIdKey o.position.txId
  xmin : Holds stored xminKey o.position.xmin
  commitMicros : Holds stored commitMicrosKey o.position.commitMicros
  snapshot : HoldsSnapshot stored o.snapshot

/-- Offsets that can be resumed from. The mark of the last record matters only where a snapshot is
named. -/
structure Resumable (stored : Mapping) : Prop where
  required : ∀ field ∈ requiredKeys, ∃ n, Holds stored field (some n)
  optional : ∀ field ∈ optionalKeys, ∃ n, Holds stored field n
  lastRecord : stored.hasField snapshotKey = true → ∃ flag, HoldsFlag stored flag

theorem not_lacks_of_denotes {v : Value} {n : Int} (held : stored.field? field = some v)
    (denotes : Denotes v n) : ¬ Lacks stored field := by
  refine not_lacks held ?_
  rintro rfl
  nomatch denotes

theorem Holds.unique {n n' : Option Int} (holds : Holds stored field n)
    (holds' : Holds stored field n') : n = n' := by
  cases n with
  | none =>
      cases n' with
      | none => rfl
      | some n' =>
          obtain ⟨v, held, denotes⟩ := holds'
          exact absurd holds (not_lacks_of_denotes held denotes)
  | some n =>
      obtain ⟨v, held, denotes⟩ := holds
      cases n' with
      | none => exact absurd holds' (not_lacks_of_denotes held denotes)
      | some n' =>
          obtain ⟨v', held', denotes'⟩ := holds'
          obtain rfl := Option.some.inj (held.symm.trans held')
          exact congrArg some (denotes.unique denotes')

theorem readInt_eq_ok_iff {v : Value} {n : Int} : readInt field v = .ok n ↔ Denotes v n := by
  rw [← integral?_eq_some_iff, readInt]
  cases integral? v <;> simp

theorem requiredInt_eq_ok_iff {n : Int} :
    requiredInt stored field = .ok n ↔ Holds stored field (some n) := by
  rcases lacks_or_filled stored field with lacks | ⟨v, held, filled⟩
  · rw [requiredInt_of_lacks lacks]
    refine iff_of_false nofun ?_
    rintro ⟨v, held, denotes⟩
    exact not_lacks_of_denotes held denotes lacks
  · rw [requiredInt_of_filled held filled, readInt_eq_ok_iff]
    constructor
    · exact fun denotes => ⟨v, held, denotes⟩
    · rintro ⟨v', held', denotes⟩
      obtain rfl := Option.some.inj (held.symm.trans held')
      exact denotes

theorem optionalInt_eq_ok_iff {n : Option Int} :
    optionalInt stored field = .ok n ↔ Holds stored field n := by
  rcases lacks_or_filled stored field with lacks | ⟨v, held, filled⟩
  · rw [optionalInt_of_lacks lacks]
    constructor
    · intro read
      obtain rfl := Except.ok.inj read
      exact lacks
    · intro holds
      have absent : Holds stored field none := lacks
      exact congrArg Except.ok (absent.unique holds)
  · rw [optionalInt_of_filled held filled]
    constructor
    · intro read
      cases number : readInt field v with
      | error error => rw [number] at read; contradiction
      | ok m =>
          rw [number] at read
          obtain rfl := Except.ok.inj read
          exact ⟨v, held, readInt_eq_ok_iff.mp number⟩
    · intro holds
      cases n with
      | none => exact absurd holds (not_lacks held filled)
      | some n =>
          obtain ⟨v', held', denotes⟩ := holds
          obtain rfl := Option.some.inj (held.symm.trans held')
          rw [readInt_eq_ok_iff.mpr denotes]
          rfl

theorem readSnapshot_eq_ok_iff {snapshot : Option Snapshot} :
    readSnapshot stored = .ok snapshot ↔ HoldsSnapshot stored snapshot := by
  rw [readSnapshot]
  cases running : stored.hasField snapshotKey with
  | false => cases snapshot <;> simp [HoldsSnapshot, running]
  | true =>
      rw [if_pos rfl]
      cases snapshot with
      | none =>
          refine iff_of_false ?_ ?_
          · split <;> simp
          · rw [HoldsSnapshot, running]
            exact Bool.noConfusion
      | some s =>
          obtain ⟨flag⟩ := s
          rw [HoldsSnapshot, running]
          cases held : stored.field? lastRecordKey with
          | none => cases flag <;> simp [HoldsFlag, Lacks, held]
          | some v => cases flag <;> cases v <;> simp [HoldsFlag, Lacks, held]

/-- Reading an offset goes through exactly where it stands for one, and finds that one. -/
theorem read_eq_ok_iff {o : Offset} : read stored = .ok o ↔ Stands stored o := by
  constructor
  · intro hread
    obtain ⟨lsn, txId, hlsn, htxId, lsnRead, txIdRead, xminRead, commitRead, snapshotRead⟩ :=
      read_ok hread
    exact ⟨⟨hlsn ▸ rfl, hlsn ▸ requiredInt_eq_ok_iff.mp lsnRead⟩,
      ⟨htxId ▸ rfl, htxId ▸ requiredInt_eq_ok_iff.mp txIdRead⟩,
      optionalInt_eq_ok_iff.mp xminRead, optionalInt_eq_ok_iff.mp commitRead,
      readSnapshot_eq_ok_iff.mp snapshotRead⟩
  · rintro ⟨⟨someLsn, lsn⟩, ⟨someTxId, txId⟩, xmin, commitMicros, snapshot⟩
    obtain ⟨⟨lsn?, txId?, xmin?, commit?⟩, snapshot?⟩ := o
    obtain ⟨lsn', rfl⟩ := Option.isSome_iff_exists.mp someLsn
    obtain ⟨txId', rfl⟩ := Option.isSome_iff_exists.mp someTxId
    rw [read, requiredInt_eq_ok_iff.mpr lsn, requiredInt_eq_ok_iff.mpr txId,
      optionalInt_eq_ok_iff.mpr xmin, optionalInt_eq_ok_iff.mpr commitMicros,
      readSnapshot_eq_ok_iff.mpr snapshot]
    rfl

theorem exists_stands_iff : (∃ o, Stands stored o) ↔ Resumable stored := by
  constructor
  · rintro ⟨o, stands⟩
    obtain ⟨lsn, hlsn⟩ := Option.isSome_iff_exists.mp stands.lsn.1
    obtain ⟨txId, htxId⟩ := Option.isSome_iff_exists.mp stands.txId.1
    refine ⟨List.forall_mem_cons.mpr ⟨⟨lsn, hlsn ▸ stands.lsn.2⟩,
      List.forall_mem_singleton.mpr ⟨txId, htxId ▸ stands.txId.2⟩⟩,
      List.forall_mem_cons.mpr ⟨⟨_, stands.xmin⟩,
      List.forall_mem_singleton.mpr ⟨_, stands.commitMicros⟩⟩, fun running => ?_⟩
    have snapshot := stands.snapshot
    cases held : o.snapshot with
    | none =>
        rw [held, HoldsSnapshot, running] at snapshot
        contradiction
    | some s =>
        rw [held] at snapshot
        exact ⟨s.lastRecord, snapshot.2⟩
  · intro resumable
    obtain ⟨lsn, hlsn⟩ := resumable.required lsnKey (by decide)
    obtain ⟨txId, htxId⟩ := resumable.required txIdKey (by decide)
    obtain ⟨xmin, hxmin⟩ := resumable.optional xminKey (by decide)
    obtain ⟨commitMicros, hcommit⟩ := resumable.optional commitMicrosKey (by decide)
    cases running : stored.hasField snapshotKey with
    | false =>
        exact ⟨⟨⟨some lsn, some txId, xmin, commitMicros⟩, none⟩, ⟨rfl, hlsn⟩, ⟨rfl, htxId⟩, hxmin,
          hcommit, running⟩
    | true =>
        obtain ⟨flag, hflag⟩ := resumable.lastRecord running
        exact ⟨⟨⟨some lsn, some txId, xmin, commitMicros⟩, some ⟨flag⟩⟩, ⟨rfl, hlsn⟩, ⟨rfl, htxId⟩,
          hxmin, hcommit, running, hflag⟩

/-- The same offset, but for the spelling of its numbers. -/
structure Respelled (stored stored' : Mapping) : Prop where
  numbers : ∀ field ∈ integerKeys, stored.field? field = stored'.field? field ∨
    ∃ v v' n, stored.field? field = some v ∧ stored'.field? field = some v' ∧ Denotes v n ∧
      Denotes v' n
  snapshot : stored.field? snapshotKey = stored'.field? snapshotKey
  lastRecord : stored.field? lastRecordKey = stored'.field? lastRecordKey

theorem Respelled.holds_iff (respelled : Respelled stored stored') (integer : field ∈ integerKeys)
    {n : Option Int} : Holds stored field n ↔ Holds stored' field n := by
  rcases respelled.numbers field integer with same | ⟨v, v', m, held, held', denotes, denotes'⟩
  · cases n <;> simp only [Holds, Lacks, same]
  · have holds : Holds stored field (some m) := ⟨v, held, denotes⟩
    have holds' : Holds stored' field (some m) := ⟨v', held', denotes'⟩
    exact ⟨fun other => other.unique holds ▸ holds', fun other => other.unique holds' ▸ holds⟩

theorem Respelled.stands_iff (respelled : Respelled stored stored') {o : Offset} :
    Stands stored o ↔ Stands stored' o := by
  have flag (flag : Option Bool) : HoldsFlag stored flag ↔ HoldsFlag stored' flag := by
    cases flag <;> simp only [HoldsFlag, Lacks, respelled.lastRecord]
  have snapshot : HoldsSnapshot stored o.snapshot ↔ HoldsSnapshot stored' o.snapshot := by
    cases o.snapshot <;> simp only [HoldsSnapshot, Mapping.hasField, respelled.snapshot, flag]
  have number {field : String} (integer : field ∈ integerKeys) (n : Option Int) :=
    respelled.holds_iff integer (n := n)
  constructor
  · rintro ⟨lsn, txId, xmin, commit, marked⟩
    exact ⟨⟨lsn.1, (number (by decide) _).mp lsn.2⟩, ⟨txId.1, (number (by decide) _).mp txId.2⟩,
      (number (by decide) _).mp xmin, (number (by decide) _).mp commit, snapshot.mp marked⟩
  · rintro ⟨lsn, txId, xmin, commit, marked⟩
    exact ⟨⟨lsn.1, (number (by decide) _).mpr lsn.2⟩, ⟨txId.1, (number (by decide) _).mpr txId.2⟩,
      (number (by decide) _).mpr xmin, (number (by decide) _).mpr commit, snapshot.mpr marked⟩

end WalCheckpoint.Offset
