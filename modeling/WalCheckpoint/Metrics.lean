import WalCheckpoint.Binary64.Read
import WalCheckpoint.Log.Event
import WalCheckpoint.Text.Order
import WalCheckpoint.Value.Display

namespace WalCheckpoint

/-! Measurements of the source position, kept apart for each server. -/

structure ServerMetrics where
  lsn : Option Binary64
  commitSeconds : Option Binary64
  snapshotInEffect : Option Bool
  positionUpdates : Nat
  timestampUpdates : Nat
  checkpointsLoaded : Nat
  deriving DecidableEq, Repr

def ServerMetrics.empty : ServerMetrics := ⟨none, none, none, 0, 0, 0⟩

abbrev Metrics := List (String × ServerMetrics)

namespace Metrics

def empty : Metrics := []

def ofServer (m : Metrics) (server : String) : ServerMetrics :=
  ((m.find? fun entry => entry.1 == server).map Prod.snd).getD .empty

def modify (server : String) (f : ServerMetrics → ServerMetrics) : Metrics → Metrics
  | [] => [(server, f .empty)]
  | (name, measured) :: rest =>
      if name = server then (name, f measured) :: rest
      else (name, measured) :: modify server f rest

theorem ofServer_modify (m : Metrics) (server : String) (f : ServerMetrics → ServerMetrics)
    (other : String) :
    ofServer (modify server f m) other =
      if other = server then f (ofServer m server) else ofServer m other := by
  induction m with
  | nil =>
      by_cases h : other = server
      · subst h
        simp [modify, ofServer]
      · simp [modify, ofServer, h, Ne.symm h]
  | cons entry rest induction =>
      obtain ⟨name, measured⟩ := entry
      by_cases hname : name = server
      · subst hname
        by_cases h : other = name
        · subst h
          simp [modify, ofServer]
        · simp [modify, ofServer, h, Ne.symm h]
      · by_cases h : other = name
        · subst h
          simp [modify, ofServer, hname]
        · simp only [ofServer, modify, hname] at induction ⊢
          simpa [Ne.symm h, hname] using induction

inductive Error where
  | valueTooLarge
  | notNumeral
  | notNumber
  deriving DecidableEq, Repr

/-- The number that a gauge shows for a value. Text may hold a numeral. -/
def gaugeNumber : Value → Except Error Binary64
  | .bool b => .ok (Binary64.ofRatio false (if b then 1 else 0) 1)
  | .int n => (Binary64.ofInt? n).elim (.error .valueTooLarge) .ok
  | .float x => .ok x
  | .string s => (Binary64.read? s.toList).elim (.error .notNumeral) .ok
  | _ => .error .notNumber

def microsPerSecond : Nat := 1000000

def seconds : Value → Except Error Binary64
  | .bool b => .ok (Binary64.ofRatio false (if b then 1 else 0) microsPerSecond)
  | .int n => (Binary64.quotient? n microsPerSecond).elim (.error .valueTooLarge) .ok
  | .float x => .ok (x.divide microsPerSecond)
  | _ => .error .notNumber

/-- Shows a number in a gauge. A gauge that cannot show it is left as it was, or at zero
where it was not there before. -/
def setGauge (shown : Except Error Binary64) (gauge : Option Binary64) : Option Binary64 :=
  match shown with
  | .ok x => some x
  | .error _ => some (gauge.getD Binary64.zero)

def outcome : Except Error Binary64 → Except Error Unit
  | .ok _ => .ok ()
  | .error error => .error error

def recordLsn (server : String) (lsn : Option Value) (m : Metrics) :
    Metrics × Except Error Unit :=
  match lsn with
  | none => (m, .ok ())
  | some lsn =>
      let shown := gaugeNumber lsn
      (m.modify server fun s => { s with lsn := setGauge shown s.lsn }, outcome shown)

/-- Commit times are shown in seconds. -/
def recordCommit (server : String) (commitMicros : Option Value) (m : Metrics) :
    Metrics × Except Error Unit :=
  match commitMicros with
  | none => (m, .ok ())
  | some micros =>
      let shown := seconds micros
      (m.modify server fun s => { s with commitSeconds := setGauge shown s.commitSeconds },
        outcome shown)

/-- Unknown values leave their gauges alone; a value that cannot be shown ends the
recording. -/
def recordPosition (server : String) (lsn commitMicros : Option Value) (m : Metrics) :
    Metrics × Except Error Unit :=
  let counted := m.modify server fun s => { s with positionUpdates := s.positionUpdates + 1 }
  match recordLsn server lsn counted with
  | (measured, .ok ()) => recordCommit server commitMicros measured
  | failed => failed

def recordTimestamp (server : String) (commitMicros : Option Value) (m : Metrics) :
    Metrics × Except Error Unit :=
  recordCommit server commitMicros <|
    m.modify server fun s => { s with timestampUpdates := s.timestampUpdates + 1 }

def setSnapshotInEffect (server : String) (inEffect : Bool) (m : Metrics) : Metrics :=
  m.modify server fun s => { s with snapshotInEffect := some inEffect }

def countCheckpointLoaded (server : String) (m : Metrics) : Metrics :=
  m.modify server fun s => { s with checkpointsLoaded := s.checkpointsLoaded + 1 }

/-- The name that measurements go by for a server. A server that is not named by text goes by the
text that shows it. -/
def serverLabel? : Value → Option String
  | .string server => some server
  | server => server.display?

structure Sample where
  metric : String
  server : String
  kind : Option String
  value : Binary64
  deriving DecidableEq, Repr

def count (n : Nat) : Binary64 :=
  Binary64.ofRatio false n 1

def counterSample (metric server : String) (kind : Option String) (n : Nat) : List Sample :=
  if n = 0 then [] else [⟨metric, server, kind, count n⟩]

def gaugeSample (metric server : String) : Option Binary64 → List Sample
  | some x => [⟨metric, server, none, x⟩]
  | none => []

def serverSamples (server : String) (s : ServerMetrics) : List Sample :=
  gaugeSample "commit_ts" server s.commitSeconds ++
    counterSample "loaded" server none s.checkpointsLoaded ++
    gaugeSample "lsn" server s.lsn ++
    gaugeSample "snapshot" server (s.snapshotInEffect.map fun b => count (if b then 1 else 0)) ++
    counterSample "updates" server (some "position") s.positionUpdates ++
    counterSample "updates" server (some "timestamp") s.timestampUpdates

/-- Samples are ordered by metric, then by server, then by kind. -/
def Sample.before (left right : Sample) : Bool :=
  let key (s : Sample) : List String := [s.metric, s.server, s.kind.getD ""]
  Text.before (key left) (key right)

def samples (m : Metrics) : List Sample :=
  (m.flatMap fun entry => serverSamples entry.1 entry.2).mergeSort Sample.before

def defaultPort : Nat := 9090

def endpointStarted (port : Value) : Log.Event :=
  ⟨.info, "Prometheus metrics server started", [("port", port)]⟩

end Metrics

end WalCheckpoint
