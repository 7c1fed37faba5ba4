import WalCheckpoint.Log.Record
import WalCheckpoint.Text.Upper

namespace WalCheckpoint.Log

/-! Where events go: lines are written from a severity on, in one format, and carry the fields
that are bound at the time. -/

structure Setup where
  threshold : Nat
  format : Format
  deriving DecidableEq, Repr

structure Sink where
  setup : Option Setup
  bound : List (String × Value)
  deriving DecidableEq

/-- A name that is no level. Two names are taken, by the text and the table of line layouts. -/
inductive SetupError where
  | unknownLevel (name : String)
  | layoutText
  | layoutTable
  deriving DecidableEq, Repr

def severities : List (String × Nat) :=
  [ ("NOTSET", 0), ("DEBUG", 10), ("INFO", 20), ("WARN", 30), ("WARNING", 30), ("ERROR", 40),
    ("FATAL", 50), ("CRITICAL", 50) ]

def severity? (name : String) : Option Nat :=
  (severities.find? fun entry => entry.1 == name).map Prod.snd

namespace Sink

def silent : Sink := ⟨none, []⟩

/-- Level names may be in letters of either case. -/
def configure (level format : String) (sink : Sink) : Except SetupError Sink :=
  let name := Text.upper level
  match severity? name with
  | some threshold => .ok { sink with setup := some ⟨threshold, Format.ofName format⟩ }
  | none =>
      if name = "BASIC_FORMAT" then .error .layoutText
      else if name = "_STYLES" then .error .layoutTable
      else .error (.unknownLevel level)

def defaultLevel : String := "INFO"

def defaultFormat : String := Format.json.name

def bind (fields : List (String × Value)) (sink : Sink) : Sink :=
  { sink with bound := fields }

def bindSource (server database : Value) (sink : Sink) : Sink :=
  sink.bind [("server", server), ("db", database)]

/-- The line for an event, if its level reaches the threshold. An event that has no line is an
error even where none would be written. Before logging is set up, events are not filled in. -/
def write (sink : Sink) (logger : String) (event : Event) : Except Failure (Option Line) :=
  let r := Record.ofEvent logger event sink.bound
  match sink.setup with
  | none => (Line.ofRecord .console (r.without Record.requestNames)).map fun _ => none
  | some setup => do
      let line ← Line.ofRecord setup.format (← r.prepare)
      return if setup.threshold ≤ event.level.severity then some line else none

def takenNames : List String := ["event", "self", "method_name"]

def noFailure : Line :=
  .text "No failure is at hand"

def call (sink : Sink) (logger : String) (way : Way) (event : String)
    (fields : List (String × Value)) : Except Failure (List Line) := do
  if fields.any fun field => takenNames.contains field.1 then throw .reservedField
  match ← sink.write logger ⟨way.level, event, fields⟩ with
  | none => return []
  | some line => return if way = .failure then [line, noFailure] else [line]

end Sink

end WalCheckpoint.Log
