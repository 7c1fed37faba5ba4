import WalCheckpoint.Offset

namespace WalCheckpoint

open Time

/-! What a restarting reader needs to know to pick up the stream. -/

structure Recovery where
  lsn : Option Int
  txId : Option Int
  xmin : Option Int
  commitTime : Option DateTime
  snapshotInEffect : Bool
  lastSnapshotRecord : Option Bool
  deriving DecidableEq

namespace Recovery

inductive Error where
  | commitTimeOutOfRange
  deriving DecidableEq, Repr

def commitTime? : Option Int → Except Error (Option DateTime)
  | none => .ok none
  | some micros =>
      match DateTime.ofMicros? micros with
      | some time => .ok (some time)
      | none => .error .commitTimeOutOfRange

def ofOptionalTime : Option DateTime → Value
  | some time => .string time.iso
  | none => .null

def fieldsOf (lsn txId xmin : Value) (commitTime : Option DateTime)
    (snapshotInEffect lastSnapshotRecord : Value) : List (String × Value) :=
  [ ("lsn", lsn),
    ("tx_id", txId),
    ("xmin", xmin),
    ("commit_time", ofOptionalTime commitTime),
    ("snapshot_in_effect", snapshotInEffect),
    ("last_snapshot_record", lastSnapshotRecord) ]

def fields (r : Recovery) : List (String × Value) :=
  fieldsOf (Offset.ofOptionalInt r.lsn) (Offset.ofOptionalInt r.txId)
    (Offset.ofOptionalInt r.xmin) r.commitTime (.bool r.snapshotInEffect)
    (Offset.ofOptionalBool r.lastSnapshotRecord)

end Recovery

end WalCheckpoint
