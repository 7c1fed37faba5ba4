import WalCheckpoint.Log.Sink
import WalCheckpoint.Tracker

namespace WalCheckpoint.Log

/-! What is asked of a log, one call after another. -/

inductive Call where
  | configure (level format : String)
  | bind (fields : List (String × Value))
  | bindSource (server database : Value)
  | transition (logger name : String) (server lsn inEffect : Value)
  | tell (logger : String) (way : Way) (event : String) (fields : List (String × Value))
  deriving DecidableEq

inductive CallFailure where
  | setup (error : SetupError)
  | event (failure : Failure)
  deriving DecidableEq, Repr

namespace Sink

structure Outcome where
  sink : Sink
  lines : List Line
  failure : Option CallFailure
  deriving DecidableEq

/-- Telling an event does not change where events go. -/
def telling (sink : Sink) : Except Failure (List Line) → Outcome
  | .ok lines => ⟨sink, lines, none⟩
  | .error failure => ⟨sink, [], some (.event failure)⟩

def apply (sink : Sink) : Call → Outcome
  | .configure level format =>
      match sink.configure level format with
      | .ok sink => ⟨sink, [], none⟩
      | .error error => ⟨sink, [], some (.setup error)⟩
  | .bind fields => ⟨sink.bind fields, [], none⟩
  | .bindSource server database => ⟨sink.bindSource server database, [], none⟩
  | .transition logger name server lsn inEffect =>
      let event := Tracker.snapshotTransition name server lsn inEffect
      sink.telling ((sink.write logger event).map Option.toList)
  | .tell logger way event fields => sink.telling (sink.call logger way event fields)

/-- The outcome of one call after another; lines of all of them are kept in order, and the failure
is that of the last one. -/
def run (sink : Sink) (calls : List Call) : Outcome :=
  calls.foldl
    (fun before call =>
      let after := before.sink.apply call
      { after with lines := before.lines ++ after.lines })
    ⟨sink, [], none⟩

end Sink

end WalCheckpoint.Log
