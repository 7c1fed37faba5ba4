import WalCheckpoint.Text.Lines

namespace WalCheckpoint

/-! The files of a working directory. -/

inductive FileEntry where
  | file (bytes : ByteArray)
  | directory

abbrev Files := List (String × FileEntry)

namespace Files

def root : String := ""

def outward : String := ".."

def parts (path : String) : List String :=
  (path.splitOn "/").filter fun part => part ≠ "" && part ≠ "."

def start (path : String) : List String :=
  if path.toList.head? = some '/' then [root] else []

/-- One step of a path: out of a directory, or into one. -/
def enter (names : List String) (part : String) : List String :=
  if part = outward then
    match names.getLast? with
    | none => [outward]
    | some name =>
        if name = root then names
        else if name = outward then names ++ [outward]
        else names.dropLast
  else names ++ [part]

def steps (path : String) : List String :=
  (parts path).foldl enter (start path)

def surrounds (names : List String) : Bool :=
  names.all fun name => name = root ∨ name = outward

def at? (files : Files) (names : List String) : Option FileEntry :=
  if surrounds names then some .directory
  else
    match files.find? fun entry => steps entry.1 == names with
    | some entry => some entry.2
    | none =>
        if files.any fun entry => names.isPrefixOf (steps entry.1) then some .directory
        else none

inductive PathError where
  | notFound
  | nameTooLong
  deriving DecidableEq, Repr

/-- A name has so many bytes at most, and a path so many. -/
def nameLimit : Nat := 255

def pathLimit : Nat := 4095

/-- Follows names from a place on. Each leads out of or into a directory that is there. -/
def follow (files : Files) (names : List String) : List String → Except PathError FileEntry
  | [] =>
      match files.at? names with
      | some entry => .ok entry
      | none => .error .notFound
  | part :: rest =>
      match files.at? names with
      | some .directory =>
          if nameLimit < part.utf8ByteSize then .error .nameTooLong
          else files.follow (enter names part) rest
      | _ => .error .notFound

/-- What is at a path. The empty path is that of the working directory, and a file is found under
the very path that names it. -/
def entry (files : Files) (path : String) : Except PathError FileEntry :=
  match files.find? fun entry => entry.1 == path with
  | some entry => .ok entry.2
  | none =>
      let parts := parts path
      if path.toList.contains '\x00' then .error .notFound
      else if pathLimit < ("/".intercalate (start path ++ parts)).utf8ByteSize then
        .error .nameTooLong
      else files.follow (start path) parts

inductive OpenError where
  | notFound
  | nameTooLong
  | directory
  deriving DecidableEq, Repr

def PathError.toOpenError : PathError → OpenError
  | .notFound => .notFound
  | .nameTooLong => .nameTooLong

def bytes (files : Files) (path : String) : Except OpenError ByteArray :=
  match files.entry path with
  | .error error => .error error.toOpenError
  | .ok .directory => .error .directory
  | .ok (.file bytes) => .ok bytes

inductive TextError where
  | notFound
  | nameTooLong
  | directory
  | undecodable
  deriving DecidableEq, Repr

def OpenError.toTextError : OpenError → TextError
  | .notFound => .notFound
  | .nameTooLong => .nameTooLong
  | .directory => .directory

def text (files : Files) (path : String) : Except TextError String :=
  match files.bytes path with
  | .error error => .error error.toTextError
  | .ok bytes =>
      match Text.decode? bytes with
      | some text => .ok text
      | none => .error .undecodable

end Files

end WalCheckpoint
