import WalCheckpoint.Files
import WalCheckpoint.Log.Event
import WalCheckpoint.Yaml.Reader

namespace WalCheckpoint.Config

/-! Configuration files. -/

inductive FileFailure where
  | notFound (path : String)
  | nameTooLong
  | directory
  | malformed (fault : Yaml.Fault)
  | notMapping (path : String)
  deriving DecidableEq

def FileFailure.message? : FileFailure → Option String
  | .notFound path => some s!"Configuration file not found: {path}"
  | .notMapping path => some s!"Configuration file must contain a mapping: {path}"
  | _ => none

structure FileOutcome where
  events : List Log.Event
  config : Except FileFailure (Keyed Document)

def fileEvent (level : Log.Level) (name path : String) : Log.Event :=
  ⟨level, name, [("file", .string path)]⟩

/-- A document that is none at all is told apart from one with a value that cannot be. -/
def malformedEvents (path : String) : Yaml.Fault → List Log.Event
  | .malformed => [fileEvent .error "Failed to parse YAML file" path]
  | _ => []

def ofDocument (path : String) (document : Document) : FileOutcome :=
  match document.entries? with
  | some config => ⟨[fileEvent .info "Loaded configuration" path], .ok config⟩
  | none =>
      if document.value = .null then
        ⟨[fileEvent .warning "Empty configuration file" path], .ok []⟩
      else ⟨[], .error (.notMapping path)⟩

def readAt (documents : Yaml.Reader) (files : Files) (path : String) : FileOutcome :=
  match files.bytes path with
  | .error .notFound => ⟨[], .error (.notFound path)⟩
  | .error .nameTooLong => ⟨[], .error .nameTooLong⟩
  | .error .directory => ⟨[], .error .directory⟩
  | .ok bytes =>
      match documents.read bytes with
      | .error fault => ⟨malformedEvents path fault, .error (.malformed fault)⟩
      | .ok document => ofDocument path document

end WalCheckpoint.Config
