import WalCheckpoint.Json.Write
import WalCheckpoint.Tracker

namespace WalCheckpoint

/-! What a fresh tracker of a source makes of a stored offset. -/

structure Report where
  partition : List (String × String)
  offset : Offset
  recovery : Recovery
  lsnText : Option String
  description : String
  deriving DecidableEq

namespace Report

inductive Failure where
  | unreadableOffset (error : Offset.ReadError)
  | commitTimeOutOfRange
  | numeralTooLong
  deriving DecidableEq

def ofTracker (t : Tracker) : Except Failure Report := do
  let recovery ← t.recovery.mapError fun
    | .commitTimeOutOfRange => .commitTimeOutOfRange
  match t.describe? with
  | none => throw .numeralTooLong
  | some description =>
      return {
        partition := t.source.partition
        offset := t.offset
        recovery := recovery
        lsnText := t.position.lsn.map Lsn.format
        description := description }

def partitionFields (r : Report) : List (String × Value) :=
  r.partition.map fun (name, value) => (name, .string value)

def recoveryFields (r : Report) : List (String × Value) :=
  r.recovery.fields ++
    match r.lsnText with
    | some text => [("lsn_text", .string text)]
    | none => []

def sortedFields (fields : List (String × Value)) : Value :=
  .map (Mapping.ofFields (fields.mergeSort fun left right => left.1 ≤ right.1))

def toValue (r : Report) : Value :=
  sortedFields
    [ ("partition", sortedFields r.partitionFields),
      ("offset", sortedFields r.offset.fields),
      ("recovery", sortedFields r.recoveryFields),
      ("source_info", .string r.description) ]

def text? (r : Report) : Except Json.Unwritable String := do
  let image ← Json.image? r.toValue
  return String.ofList (Json.write (.indented 2) 0 image) ++ "\n"

end Report

/-- A report or why there is none, and the events on the way to it. -/
structure Inspection where
  events : List Log.Event
  outcome : Except Report.Failure Report

def inspect (source : Source) (stored : Mapping) : Inspection :=
  let loaded := (Tracker.start source).load stored .empty
  { events := Tracker.initialized source :: loaded.events
    outcome :=
      match loaded.failure with
      | some (.unreadableOffset error) => .error (.unreadableOffset error)
      | some (.unmeasurable _) | none => Report.ofTracker loaded.tracker }

end WalCheckpoint
