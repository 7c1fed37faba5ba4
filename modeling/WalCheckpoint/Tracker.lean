import WalCheckpoint.Log.Event
import WalCheckpoint.Lsn
import WalCheckpoint.Metrics
import WalCheckpoint.Recovery
import WalCheckpoint.Source
import WalCheckpoint.TableId

namespace WalCheckpoint

open Time

/-! The position of one source as events are consumed, snapshots run and checkpoints are
restored. -/

structure Tracker where
  source : Source
  position : Position
  inSnapshot : Bool
  /-- Whether the last record of the snapshot was reached. The mark of an earlier snapshot
  stays after its end. -/
  lastRecord : Option Bool
  schema : Option String
  table : Option String
  deriving DecidableEq

namespace Tracker

def start (source : Source) : Tracker :=
  ⟨source, .unknown, false, none, none, none⟩

def hasPosition (t : Tracker) : Bool :=
  t.position.lsn.isSome

def offset (t : Tracker) : Offset :=
  ⟨t.position, if t.inSnapshot then some ⟨t.lastRecord⟩ else none⟩

@[simp] theorem offset_position (t : Tracker) : t.offset.position = t.position := rfl

def recovery (t : Tracker) : Except Recovery.Error Recovery := do
  let commitTime ← Recovery.commitTime? t.position.commitMicros
  return {
    lsn := t.position.lsn
    txId := t.position.txId
    xmin := t.position.xmin
    commitTime := commitTime
    snapshotInEffect := t.inSnapshot
    lastSnapshotRecord := if t.inSnapshot then t.lastRecord else none }

inductive EnvelopeError where
  | noTableContext (server : String)
  deriving DecidableEq, Repr

def EnvelopeError.message : EnvelopeError → String
  | .noTableContext server =>
      s!"Source envelope requested for server '{server}' before any table " ++
        "context was set; call update() with a table id first"

def serverKey : String := "name"
def databaseKey : String := "db"
def schemaKey : String := "schema"
def tableKey : String := "table"

def envelope (t : Tracker) : Except EnvelopeError (List (String × Value)) :=
  match t.schema, t.table with
  | some schema, some table =>
      .ok ([ (serverKey, .string t.source.server),
        (databaseKey, .string t.source.database),
        (schemaKey, .string schema),
        (tableKey, .string table) ] ++ t.offset.fields)
  | _, _ => .error (.noTableContext t.source.server)

def describeInt (label : String) : Option Int → Option (List String)
  | none => some []
  | some n => (Text.Numeral.write? n).map fun text => [label ++ text]

def describeFlag : Option Bool → String
  | some b => Value.displayBool b
  | none => "None"

def describeSnapshot (inSnapshot : Bool) (lastRecord : Option Bool) : List String :=
  s!"snapshot={Value.displayBool inSnapshot}" ::
    if inSnapshot then [s!"last_snapshot_record={describeFlag lastRecord}"] else []

def describeName (label : String) : Option String → List String
  | none => []
  | some name => [label ++ name]

/-- One line for people, with what is known. Numbers with too many digits have no text. -/
def describe? (t : Tracker) : Option String := do
  let p := t.position
  let lsn := p.lsn.elim [] fun n => ["lsn=" ++ Lsn.format n]
  let txId ← describeInt "txId=" p.txId
  let xmin ← describeInt "xmin=" p.xmin
  let commit ← describeInt "useconds=" p.commitMicros
  let parts :=
    [s!"server='{t.source.server}'", s!"db='{t.source.database}'"] ++ lsn ++ txId ++ xmin ++
      commit ++ describeSnapshot t.inSnapshot t.lastRecord ++ describeName "schema=" t.schema ++
      describeName "table=" t.table
  return "source_info[" ++ ", ".intercalate parts ++ "]"

/-- A name that is not empty replaces the one known so far. -/
def stickyName (known given : Option String) : Option String :=
  match given with
  | some name => if name.isEmpty then known else some name
  | none => known

def withTable (id : Option TableId) (t : Tracker) : Tracker :=
  match id with
  | some id => { t with
      schema := stickyName t.schema id.schema
      table := stickyName t.table id.table }
  | none => t

def withOffset (offset : Offset) (t : Tracker) : Tracker :=
  { t with
    position := offset.position
    inSnapshot := offset.snapshot.isSome
    lastRecord := offset.snapshot.bind Snapshot.lastRecord }

inductive Operation where
  | load (stored : Mapping)
  | update (lsn : Option Int) (commitTime : Option DateTime) (txId : Option Int)
      (table : Option TableId) (xmin : Option Int)
  | updateTimestamp (commitMicros : Option Int) (table : Option TableId)
  | startSnapshot
  | markLastRecord
  | completeSnapshot
  deriving DecidableEq

inductive Failure where
  | unreadableOffset (error : Offset.ReadError)
  | unmeasurable (error : Metrics.Error)
  deriving DecidableEq

/-- What an operation leaves behind. A failed one keeps what it had changed by then. -/
structure Outcome where
  tracker : Tracker
  metrics : Metrics
  events : List Log.Event
  failure : Option Failure
  deriving DecidableEq

def initialized (source : Source) : Log.Event :=
  ⟨.debug, "SourceInfo initialized",
    [("server", .string source.server), ("db", .string source.database)]⟩

def offsetLoaded (t : Tracker) : Log.Event :=
  ⟨.info, "Stored offset loaded",
    [ ("server", .string t.source.server),
      ("lsn", t.position.lsn.elim .null fun n => .string (Lsn.format n)),
      ("tx_id", Offset.ofOptionalInt t.position.txId),
      ("snapshot", .bool t.inSnapshot),
      ("last_snapshot_record", Offset.ofOptionalBool t.lastRecord) ]⟩

def positionUpdated (t : Tracker) (table : Option TableId) : Log.Event :=
  ⟨.debug, "Source position updated",
    [ ("lsn", Offset.ofOptionalInt t.position.lsn),
      ("tx_id", Offset.ofOptionalInt t.position.txId),
      ("xmin", Offset.ofOptionalInt t.position.xmin),
      ("table", table.elim .null fun id => .string id.write) ]⟩

def markedOutsideSnapshot (source : Source) : Log.Event :=
  ⟨.debug, "Last snapshot record marked outside of a snapshot",
    [("server", .string source.server)]⟩

def snapshotTransition (transition : String) (server lsn inEffect : Value) : Log.Event :=
  ⟨.info, "snapshot_" ++ transition,
    [("server", server), ("lsn", lsn), ("snapshot_in_effect", inEffect)]⟩

def transitioned (transition : String) (inEffect : Bool) (t : Tracker) : Log.Event :=
  snapshotTransition transition (.string t.source.server)
    (Offset.ofOptionalInt t.position.lsn) (.bool inEffect)

def load (stored : Mapping) (m : Metrics) (t : Tracker) : Outcome :=
  match Offset.read stored with
  | .error error => ⟨t, m, [], some (.unreadableOffset error)⟩
  | .ok offset =>
      let t := t.withOffset offset
      let m := m.countCheckpointLoaded t.source.server
      ⟨t, m.setSnapshotInEffect t.source.server t.inSnapshot, [t.offsetLoaded], none⟩

def update (lsn : Option Int) (commitTime : Option DateTime) (txId : Option Int)
    (table : Option TableId) (xmin : Option Int) (m : Metrics) (t : Tracker) : Outcome :=
  let position := ⟨lsn, txId, xmin, commitTime.map DateTime.toMicros⟩
  let t := { t with position := position }.withTable table
  match m.recordPosition t.source.server (lsn.map .int) (position.commitMicros.map .int) with
  | (m, .ok ()) => ⟨t, m, [t.positionUpdated table], none⟩
  | (m, .error error) => ⟨t, m, [], some (.unmeasurable error)⟩

def updateTimestamp (commitMicros : Option Int) (table : Option TableId) (m : Metrics)
    (t : Tracker) : Outcome :=
  let position := { t.position with commitMicros := commitMicros }
  let t := { t with position := position }.withTable table
  match m.recordTimestamp t.source.server (commitMicros.map .int) with
  | (m, .ok ()) => ⟨t, m, [], none⟩
  | (m, .error error) => ⟨t, m, [], some (.unmeasurable error)⟩

def startSnapshot (m : Metrics) (t : Tracker) : Outcome :=
  let t := { t with inSnapshot := true, lastRecord := some false }
  ⟨t, m.setSnapshotInEffect t.source.server true, [t.transitioned "started" true], none⟩

/-- The marked record still belongs to the snapshot. Outside of a snapshot the mark is kept
too, with a warning. -/
def markLastRecord (m : Metrics) (t : Tracker) : Outcome :=
  let marked := { t with lastRecord := some true }
  let warning := if t.inSnapshot then [] else [markedOutsideSnapshot t.source]
  ⟨marked, m, warning ++ [marked.transitioned "last_record" marked.inSnapshot], none⟩

def completeSnapshot (m : Metrics) (t : Tracker) : Outcome :=
  let t := { t with inSnapshot := false }
  ⟨t, m.setSnapshotInEffect t.source.server false, [t.transitioned "completed" false], none⟩

def apply (m : Metrics) (t : Tracker) : Operation → Outcome
  | .load stored => t.load stored m
  | .update lsn commitTime txId table xmin => t.update lsn commitTime txId table xmin m
  | .updateTimestamp commitMicros table => t.updateTimestamp commitMicros table m
  | .startSnapshot => t.startSnapshot m
  | .markLastRecord => t.markLastRecord m
  | .completeSnapshot => t.completeSnapshot m

/-- The outcome of one operation after another; events of all of them are kept in order,
and the failure is that of the last one. -/
def run (m : Metrics) (t : Tracker) (operations : List Operation) : Outcome :=
  operations.foldl
    (fun before operation =>
      let after := before.tracker.apply before.metrics operation
      { after with events := before.events ++ after.events })
    ⟨t, m, [], none⟩

end Tracker

end WalCheckpoint
