import WalCheckpoint.Value.Display

namespace WalCheckpoint

/-! What a checkpoint holds: the position of the last consumed event and, while a snapshot
runs, the snapshot markers. -/

structure Position where
  lsn : Option Int
  txId : Option Int
  xmin : Option Int
  commitMicros : Option Int
  deriving DecidableEq, Repr

def Position.unknown : Position := ⟨none, none, none, none⟩

/-- A running snapshot; whether its last record was reached may be unknown. -/
structure Snapshot where
  lastRecord : Option Bool
  deriving DecidableEq, Repr

structure Offset where
  position : Position
  snapshot : Option Snapshot
  deriving DecidableEq, Repr

namespace Offset

def unknown : Offset := ⟨.unknown, none⟩

def commitMicrosKey : String := "ts_usec"
def txIdKey : String := "txId"
def lsnKey : String := "lsn"
def xminKey : String := "xmin"
def snapshotKey : String := "snapshot"
def lastRecordKey : String := "last_snapshot_record"

def keys : List String :=
  [commitMicrosKey, txIdKey, lsnKey, xminKey, snapshotKey, lastRecordKey]

def ofOptionalInt : Option Int → Value
  | some n => .int n
  | none => .null

def ofOptionalBool : Option Bool → Value
  | some b => .bool b
  | none => .null

def intField (name : String) : Option Int → List (String × Value)
  | some n => [(name, .int n)]
  | none => []

def snapshotFields : Option Snapshot → List (String × Value)
  | some snapshot =>
      [(snapshotKey, .bool true), (lastRecordKey, ofOptionalBool snapshot.lastRecord)]
  | none => []

/-- Numbers are stored where they are known, snapshot markers where a snapshot runs. -/
def fields (o : Offset) : List (String × Value) :=
  intField commitMicrosKey o.position.commitMicros ++
    intField txIdKey o.position.txId ++
    intField lsnKey o.position.lsn ++
    intField xminKey o.position.xmin ++
    snapshotFields o.snapshot

def toMapping (o : Offset) : Mapping :=
  Mapping.ofFields o.fields

inductive ReadError where
  | missing (field : String)
  | notInteger (field : String) (value : Value)
  | notBoolean (field : String) (value : Value)
  deriving DecidableEq

namespace ReadError

def field : ReadError → String
  | .missing field => field
  | .notInteger field _ => field
  | .notBoolean field _ => field

def value : ReadError → Value
  | .missing _ => .null
  | .notInteger _ value => value
  | .notBoolean _ value => value

def message? : ReadError → Option String
  | .missing field => some s!"Stored offset is missing required field '{field}'"
  | .notInteger field value =>
      value.display?.map fun text =>
        s!"Stored offset field '{field}' is not an integer: {text}"
  | .notBoolean field value =>
      value.display?.map fun text =>
        s!"Stored offset field '{field}' is not a boolean: {text}"

end ReadError

/-- The whole number that a stored value denotes: a number without a fractional part, or a
decimal numeral, but no truth value. -/
def integral? : Value → Option Int
  | .int n => some n
  | .float x => x.integral?
  | .string s => Text.Numeral.decimal? (Text.trimBy Text.isBlank s.toList)
  | _ => none

def readInt (field : String) (value : Value) : Except ReadError Int :=
  match integral? value with
  | some n => .ok n
  | none => .error (.notInteger field value)

def requiredInt (stored : Mapping) (field : String) : Except ReadError Int :=
  match stored.field? field with
  | none => .error (.missing field)
  | some .null => .error (.missing field)
  | some value => readInt field value

def optionalInt (stored : Mapping) (field : String) : Except ReadError (Option Int) :=
  match stored.field? field with
  | none => .ok none
  | some .null => .ok none
  | some value => (readInt field value).map some

/-- A snapshot runs where its key is there, whatever the key holds. -/
def readSnapshot (stored : Mapping) : Except ReadError (Option Snapshot) :=
  if stored.hasField snapshotKey then
    match stored.field? lastRecordKey with
    | none => .ok (some ⟨none⟩)
    | some .null => .ok (some ⟨none⟩)
    | some (.bool b) => .ok (some ⟨some b⟩)
    | some value => .error (.notBoolean lastRecordKey value)
  else .ok none

def read (stored : Mapping) : Except ReadError Offset := do
  let lsn ← requiredInt stored lsnKey
  let txId ← requiredInt stored txIdKey
  let xmin ← optionalInt stored xminKey
  let commitMicros ← optionalInt stored commitMicrosKey
  let snapshot ← readSnapshot stored
  return ⟨⟨some lsn, some txId, xmin, commitMicros⟩, snapshot⟩

end Offset

end WalCheckpoint
