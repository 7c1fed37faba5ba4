import WalCheckpoint.Inspection.Standard

/-! The command line: it gathers variables and files, runs an inspection and prints what is left
of it. No measurements are offered. -/

namespace WalCheckpoint.CommandLine

def usage : String :=
  "usage: pgcdc-inspect [-h] [--config CONFIG] [--server SERVER] [--db DB]\n" ++
  "                     [--log-level LOG_LEVEL] checkpoint\n"

/-- Whatever is no file that can be read counts as a directory. -/
def entryAt (path : String) : IO Files := do
  try
    return [(path, .file (← IO.FS.readBinFile path))]
  catch
    | .noFileOrDirectory .. => return []
    | _ => return [(path, .directory)]

def entriesAt : List String → IO Files
  | [] => return []
  | path :: rest => return (← entryAt path) ++ (← entriesAt rest)

/-- The files that a run may look at, and the variable files that are named in them. -/
def filesFor (arguments : Inspection.Arguments) : IO Files := do
  let path := arguments.choices.config
  let files ← entriesAt (Settings.variableFileName :: arguments.file :: path.toList)
  match (Config.fileAt Yaml.standard files path).config with
  | .ok config =>
      return files ++ (← entriesAt (Settings.filesNamed (Document.entryValues config)))
  | .error _ => return files

def variableOf? (entry : List Char) : Option (String × String) :=
  match entry.dropWhile (· != '=') with
  | [] => none
  | _ :: text => some (String.ofList (entry.takeWhile (· != '=')), String.ofList text)

def ownVariables : IO (List (String × String)) := do
  let bytes ← try IO.FS.readBinFile "/proc/self/environ" catch _ => pure ByteArray.empty
  let entries := ((String.fromUTF8? bytes).getD "").splitOn "\x00"
  return entries.filterMap fun entry => variableOf? entry.toList

def describe : Inspection.Breakdown → String
  | .endpoint port => s!"measurements cannot be offered at port {port.val}"
  | .config failure => s!"settings cannot be loaded: {describeConfig failure}"
  | .stored _ => "the stored offset has a value that cannot be handled"
  | .report _ => "the stored offset cannot be reported on"
  | .untellable _ | .unwritable _ => "a value cannot be written"
where
  describeConfig : Config.Failure → String
    | .file .directory => "not a file"
    | .file _ => "the file has a value that cannot be handled"
    | .overrides => "what is laid over the configuration is no mapping"
    | .settings _ => "a setting has a name that cannot be used"

def print (run : Inspection.Run) : IO UInt32 := do
  for line in run.lines do
    IO.eprintln line.toText
  match run.ending with
  | .ok ending =>
      IO.print ending.text
      return UInt32.ofNat ending.exit.code
  | .error breakdown =>
      IO.eprintln (describe breakdown)
      return 1

def start (texts : List String) : IO UInt32 := do
  match Inspection.Arguments.read texts with
  | .error .help =>
      IO.print usage
      return 0
  | .error .misuse =>
      IO.eprint usage
      return 2
  | .ok arguments =>
      let environment := .standard (← ownVariables) (← filesFor arguments)
      print (Inspection.run environment arguments)

end WalCheckpoint.CommandLine

def main (texts : List String) : IO UInt32 :=
  WalCheckpoint.CommandLine.start texts
