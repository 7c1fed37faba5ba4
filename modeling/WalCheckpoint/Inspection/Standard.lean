import WalCheckpoint.Inspection.Run
import WalCheckpoint.Proofs.Yaml.Keys
import WalCheckpoint.Settings.Library

namespace WalCheckpoint

/-! What is usually around a run: documents in YAML, directives that are idle where they are not
followed, and ports that can be opened. -/

namespace Config.Environment

def standard (vars : List (String × String)) (files : Files) : Environment where
  vars := vars
  files := files
  library := Settings.Library.idle vars files
  documents := Yaml.standard

end Config.Environment

namespace Inspection.Environment

def standard (vars : List (String × String)) (files : Files) : Environment where
  loading := .standard vars files
  opens _ := true

end Inspection.Environment

end WalCheckpoint
