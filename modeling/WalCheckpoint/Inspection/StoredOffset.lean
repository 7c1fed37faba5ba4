import WalCheckpoint.Files
import WalCheckpoint.Log.Event
import WalCheckpoint.Offset
import WalCheckpoint.Value.Order
import WalCheckpoint.Yaml.Reader

namespace WalCheckpoint

/-! Stored offsets in files. -/

namespace StoredOffset

inductive Failure where
  | unreadable (error : Files.OpenError)
  | malformed (fault : Yaml.Fault)
  | notMapping (path : String)
  | incomparableKeys
  deriving DecidableEq

def Failure.message? : Failure → Option String
  | .notMapping path => some s!"Stored offset must be a mapping: {path}"
  | _ => none

structure Outcome where
  events : List Log.Event
  stored : Except Failure Mapping

def unknownKeys (stored : Mapping) : List Value :=
  (stored.map Prod.fst).filter fun key => !(Offset.keys.any fun name => key.sameKey (.string name))

def hasUnknownKeys (path : String) (keys : List Value) : Log.Event :=
  ⟨.warning, "Stored offset has unknown keys", [("file", .string path), ("keys", .list keys)]⟩

/-- A stored offset as it stands, with a warning about keys that no offset has. -/
def ofMapping (path : String) (stored : Mapping) : Outcome :=
  match Value.sort? (unknownKeys stored) with
  | none => ⟨[], .error .incomparableKeys⟩
  | some [] => ⟨[], .ok stored⟩
  | some keys => ⟨[hasUnknownKeys path keys], .ok stored⟩

/-- An empty document stands for an empty offset. -/
def ofValue (path : String) : Value → Outcome
  | .null => ⟨[], .ok []⟩
  | .map stored => ofMapping path stored
  | _ => ⟨[], .error (.notMapping path)⟩

def read (documents : Yaml.Reader) (files : Files) (path : String) : Outcome :=
  match files.bytes path with
  | .error error => ⟨[], .error (.unreadable error)⟩
  | .ok bytes =>
      match documents.read bytes with
      | .error fault => ⟨[], .error (.malformed fault)⟩
      | .ok document => ofValue path document.value

end StoredOffset

end WalCheckpoint
