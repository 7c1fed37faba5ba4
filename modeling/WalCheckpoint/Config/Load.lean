import WalCheckpoint.Config.File
import WalCheckpoint.Settings

namespace WalCheckpoint.Config

/-! Settings from a configuration file, what is laid over it, and the environment. -/

/-- What settings are loaded in: the variables and files with the library, and what reads
documents. -/
structure Environment extends reading : Settings.Environment where
  documents : Yaml.Reader

inductive Failure where
  | file (failure : FileFailure)
  | overrides
  | settings (failure : Settings.Failure)
  deriving DecidableEq

/-- Settings or why there are none, the events on the way, and how many statements of the variable
file were passed over. -/
structure Outcome where
  events : List Log.Event
  passedOver : Nat
  settings : Except Failure Settings

def loaded (settings : Settings) (fromFile : Bool) : Log.Event :=
  ⟨.debug, "Configuration loaded successfully",
    [ ("server", .string settings.source.server),
      ("db", .string settings.source.database),
      ("from_file", .bool fromFile) ]⟩

def fileAt (documents : Yaml.Reader) (files : Files) (path : Option String) : FileOutcome :=
  match path with
  | none => ⟨[], .ok []⟩
  | some "" => ⟨[], .ok []⟩
  | some path => readAt documents files path

def namesFile (path : Option String) : Bool :=
  path.any (· != "")

/-- A configuration with what is laid over it, in place. -/
def laidOver (config : Keyed Document) (overrides : Mapping) : Mapping :=
  Document.entryValues (Document.lay none overrides config)

/-- What is laid over a configuration is a mapping, or a value that counts as false and changes
nothing. -/
def overridden? (config : Keyed Document) : Value → Option Mapping
  | .map overrides => some (laidOver config overrides)
  | value => if value.isTruthy then none else some (laidOver config [])

def loadGiven (environment : Settings.Environment) (events : List Log.Event) (fromFile : Bool)
    (given : Mapping) : Outcome :=
  let passedOver := Settings.passedOver environment given
  match Settings.read environment given with
  | .error failure => ⟨events, passedOver, .error (.settings failure)⟩
  | .ok settings => ⟨events ++ [loaded settings fromFile], passedOver, .ok settings⟩

def load (environment : Environment) (path : Option String) (overrides : Value) : Outcome :=
  let file := fileAt environment.documents environment.files path
  match file.config with
  | .error failure => ⟨file.events, 0, .error (.file failure)⟩
  | .ok config =>
      match overridden? config overrides with
      | none => ⟨file.events, 0, .error .overrides⟩
      | some given => loadGiven environment.reading file.events (namesFile path) given

end WalCheckpoint.Config
