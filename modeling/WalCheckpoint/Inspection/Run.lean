import WalCheckpoint.Config.Load
import WalCheckpoint.Inspection.Arguments
import WalCheckpoint.Inspection.Report
import WalCheckpoint.Inspection.StoredOffset
import WalCheckpoint.Log.Sink

namespace WalCheckpoint.Inspection

/-! A whole run: settings are loaded, the file is read and inspected, and the report is printed.
What goes wrong is told in the log and by the exit, where it is foreseen. -/

inductive Exit where
  | ok
  | unreadable
  | invalid
  deriving DecidableEq, Repr

def Exit.code : Exit → Nat
  | .ok => 0
  | .unreadable => 1
  | .invalid => 2

/-- What a run finds around it: what settings are loaded in, and the ports that can be opened. -/
structure Environment extends loading : Config.Environment where
  opens : Settings.Port → Bool

inductive Breakdown where
  | endpoint (port : Settings.Port)
  | config (failure : Config.Failure)
  | stored (failure : StoredOffset.Failure)
  | report (failure : Report.Failure)
  | untellable (failure : Log.Failure)
  | unwritable (error : Json.Unwritable)
  deriving DecidableEq

/-! Names of loggers. -/

def configLogger : String := "pgcdc.config.loader"

def metricsLogger : String := "pgcdc.observability.metrics"

def trackerLogger : String := "pgcdc.cdc.source_info"

def runLogger : String := "pgcdc.main"

structure Progress where
  sink : Log.Sink
  lines : List Log.Line
  ports : List Settings.Port
  deriving DecidableEq

namespace Progress

def start : Progress :=
  ⟨⟨some ⟨Log.Level.info.severity, .json⟩, []⟩, [], []⟩

def write (lines : List Log.Line) (progress : Progress) : Progress :=
  { progress with lines := progress.lines ++ lines }

/-- From here on the log follows the settings and names the source. -/
def follow (settings : Settings) (progress : Progress) : Progress :=
  let setup := ⟨settings.observability.logLevel.severity, settings.observability.logFormat⟩
  let sink := { progress.sink with setup := some setup }
  let source := settings.source
  { progress with sink := sink.bindSource (.string source.server) (.string source.database) }

def openEndpoint (port : Settings.Port) (progress : Progress) : Progress :=
  { progress with ports := progress.ports ++ [port] }

end Progress

/-- A part of a run. Its progress is kept where it breaks down. -/
abbrev Step := ExceptT Breakdown (StateM Progress)

def tell (logger : String) (event : Log.Event) : Step Unit := do
  match (← get).sink.write logger event with
  | .ok line => modify (Progress.write line.toList)
  | .error failure => throw (.untellable failure)

def tellAll (logger : String) : List Log.Event → Step Unit
  | [] => pure ()
  | event :: rest => do
      tell logger event
      tellAll logger rest

structure Refused where
  event : Log.Event
  exit : Exit
  deriving DecidableEq

namespace Refused

/-- Only messages of this program's own are told. -/
def because (name : String) (fields : List (String × Value)) (message : Option String)
    (exit : Exit) : Refused :=
  let told := match message with
    | some message => [("error", .string message)]
    | none => []
  ⟨⟨.error, name, fields ++ told⟩, exit⟩

def ofFile (failure : Config.FileFailure) : Option Refused :=
  match failure with
  | .nameTooLong | .directory => none
  | .malformed fault =>
      if fault.isForeseen then some (because "Invalid configuration" [] none .invalid) else none
  | .notFound _ =>
      some (because "Configuration file not found" [] failure.message? .unreadable)
  | .notMapping _ =>
      some (because "Invalid configuration" [] failure.message? .invalid)

def ofConfig : Config.Failure → Option Refused
  | .file failure => ofFile failure
  | .overrides => none
  | .settings .reservedName | .settings .foreign
  | .settings .unreachableVariableFile => none
  | .settings _ => some (because "Invalid configuration" [] none .invalid)

def unreadable (path : String) (message : Option String) : Refused :=
  because "Failed to read stored offset" [("file", .string path)] message .unreadable

def ofStored (path : String) (failure : StoredOffset.Failure) : Option Refused :=
  match failure with
  | .incomparableKeys => none
  | .malformed fault => if fault.isForeseen then some (unreadable path none) else none
  | .unreadable _ | .notMapping _ => some (unreadable path failure.message?)

/-- A refused offset that cannot be named in a message is unforeseen. -/
def ofReport (path : String) : Report.Failure → Option Refused
  | .unreadableOffset error =>
      error.message?.map fun message =>
        because "Stored offset cannot be loaded" [("file", .string path)] (some message) .invalid
  | .commitTimeOutOfRange | .numeralTooLong => none

end Refused

structure Ending where
  exit : Exit
  text : String
  deriving DecidableEq, Repr

def refuse (breakdown : Breakdown) : Option Refused → Step Ending
  | none => throw breakdown
  | some refused => do
      tell runLogger refused.event
      return ⟨refused.exit, ""⟩

def report (settings : Settings) (path : String) (stored : Mapping) : Step Ending := do
  let inspection := inspect settings.source stored
  tellAll trackerLogger inspection.events
  match inspection.outcome with
  | .error failure => refuse (.report failure) (Refused.ofReport path failure)
  | .ok report =>
      match report.text? with
      | .ok text => return ⟨.ok, text⟩
      | .error error => throw (.unwritable error)

/-- Keys with numerals too long for the warning about them make a file unreadable. -/
def warn (path : String) (events : List Log.Event) : Step (Option Refused) :=
  tryCatch (do tellAll runLogger events; return none) fun
    | .untellable (.unwritable .numeral) => return some (Refused.unreadable path none)
    | breakdown => throw breakdown

def inspectFile (environment : Environment) (settings : Settings) (path : String) :
    Step Ending := do
  let outcome := StoredOffset.read environment.documents environment.files path
  match ← warn path outcome.events with
  | some refused => refuse (.unwritable .numeral) (some refused)
  | none =>
      match outcome.stored with
      | .error failure => refuse (.stored failure) (Refused.ofStored path failure)
      | .ok stored => report settings path stored

/-- A port that cannot be opened breaks a run down. -/
def openEndpoint (environment : Environment) (port : Settings.Port) : Step Unit := do
  if environment.opens port then
    modify (Progress.openEndpoint port)
    tell metricsLogger (Metrics.endpointStarted (.int port.val))
  else throw (.endpoint port)

def passedOverLine : Log.Line :=
  .text "A statement of the variable file cannot be read"

def steps (environment : Environment) (arguments : Arguments) : Step Ending := do
  let loaded := Config.load environment.loading arguments.choices.config
    (.map arguments.overrides)
  tellAll configLogger loaded.events
  modify (Progress.write (List.replicate loaded.passedOver passedOverLine))
  match loaded.settings with
  | .error failure => refuse (.config failure) (Refused.ofConfig failure)
  | .ok settings =>
      modify (Progress.follow settings)
      if settings.observability.metricsEnabled then
        openEndpoint environment settings.observability.metricsPort
      inspectFile environment settings arguments.file

/-- What a run leaves: its log, the ports its measurements were offered at, and its end. -/
structure Run where
  lines : List Log.Line
  ports : List Settings.Port
  ending : Except Breakdown Ending

def run (environment : Environment) (arguments : Arguments) : Run :=
  let (ending, progress) := (steps environment arguments).run.run Progress.start
  ⟨progress.lines, progress.ports, ending⟩

end WalCheckpoint.Inspection
