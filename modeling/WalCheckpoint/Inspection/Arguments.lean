import WalCheckpoint.Settings
import WalCheckpoint.Text.Digit
import WalCheckpoint.Text.Upper

namespace WalCheckpoint.Inspection

/-! The arguments of a run: one file, and flags that lay values over the configuration. A flag may
be shortened as long as one flag alone begins so, and the last of repeated flags counts. -/

inductive Flag where
  | help
  | config
  | server
  | database
  | logLevel
  deriving DecidableEq, Repr

namespace Flag

def all : List Flag := [.help, .config, .server, .database, .logLevel]

def name : Flag → String
  | .help => "help"
  | .config => "config"
  | .server => "server"
  | .database => "db"
  | .logLevel => "log-level"

def beginning (cs : List Char) : List Flag :=
  all.filter fun flag => cs.isPrefixOf flag.name.toList

end Flag

inductive Word where
  | plain
  | flag (flag : Flag) (value : Option String)
  | ambiguous
  | unknown
  deriving DecidableEq, Repr

namespace Word

def isDigit (c : Char) : Bool :=
  (Text.digitValue? c).isSome

/-- Digits, and maybe a point in front of the last of them. A line end may follow. -/
def isNumeral (cs : List Char) : Bool :=
  let cs := if cs.getLast? = some '\n' then cs.dropLast else cs
  match cs.dropWhile isDigit with
  | [] => !cs.isEmpty
  | '.' :: fraction => !fraction.isEmpty && fraction.all isDigit
  | _ => false

def valueAfter : List Char → Option String
  | [] => none
  | '=' :: value => some (String.ofList value)
  | _ :: rest => valueAfter rest

/-- No flag has a space in its name. -/
def unnamed (cs : List Char) : Word :=
  if cs.contains ' ' then .plain else .unknown

/-- An argument after its two dashes. -/
def ofLong (cs : List Char) : Word :=
  match Flag.beginning (cs.takeWhile (· != '=')) with
  | [] => unnamed cs
  | [found] => .flag found (valueAfter cs)
  | _ => .ambiguous

/-- What follows the short form of the flag for help: the same letter again, maybe after an equals
sign. Anything else is a value, which the flag does not take. -/
def ofHelp : List Char → Word
  | '=' :: c :: rest => if (c :: rest).all (· = 'h') then .flag .help none
      else .flag .help (some (String.ofList (c :: rest)))
  | cs => if cs.all (· = 'h') then .flag .help none else .flag .help (some (String.ofList cs))

/-- Dashes alone and negative numbers are no flags. -/
def ofChars : List Char → Word
  | '-' :: '-' :: cs => ofLong cs
  | '-' :: 'h' :: cs => ofHelp cs
  | '-' :: c :: cs => if isNumeral (c :: cs) then .plain else unnamed (c :: cs)
  | _ => .plain

def ofText (text : String) : Word :=
  ofChars text.toList

end Word

structure Choices where
  config : Option String
  server : Option String
  database : Option String
  logLevel : Option String
  deriving DecidableEq, Repr

namespace Choices

def empty : Choices := ⟨none, none, none, none⟩

/-- A flag may be given without any value; what it said before is then forgotten. -/
def choose (choices : Choices) (value : Option String) : Flag → Choices
  | .help => choices
  | .config => { choices with config := value }
  | .server => { choices with server := value }
  | .database => { choices with database := value }
  | .logLevel => { choices with logLevel := value }

end Choices

structure Arguments where
  file : String
  choices : Choices
  deriving DecidableEq, Repr

inductive Refusal where
  | help
  | misuse
  deriving DecidableEq, Repr

namespace Arguments

/-- What has been read of the arguments. Some may turn out to be too many, which is told last. -/
structure Draft where
  file : Option String
  choices : Choices
  surplus : Bool
  deriving DecidableEq, Repr

namespace Draft

def empty : Draft := ⟨none, .empty, false⟩

def addPlain (draft : Draft) (text : String) : Draft :=
  match draft.file with
  | none => { draft with file := some text }
  | some _ => { draft with surplus := true }

def addSurplus (draft : Draft) : Draft :=
  { draft with surplus := true }

def choose (draft : Draft) (flag : Flag) (value : Option String) : Draft :=
  { draft with choices := draft.choices.choose value flag }

def finish (draft : Draft) : Except Refusal Arguments :=
  match draft.file, draft.surplus with
  | some file, false => .ok ⟨file, draft.choices⟩
  | _, _ => .error .misuse

end Draft

/-- After it no argument is a flag. -/
def separator : String := "--"

/-- A separator that is attached to a flag gives it no value. -/
def attachedValue (text : String) : Option String :=
  if text = separator then none else some text

def readPlain (draft : Draft) (texts : List String) : Draft :=
  match draft.file with
  | none => texts.foldl Draft.addPlain draft
  | some _ => draft.addSurplus

/-- Arguments count from left to right. A separator may stand on either side of the file. -/
def readAll (draft : Draft) : List String → Except Refusal Draft
  | [] => .ok draft
  | text :: rest =>
      if text = separator then .ok (readPlain draft rest)
      else
        match Word.ofText text with
        | .plain =>
            if draft.file.isNone && rest = [separator] then .ok (draft.addPlain text)
            else readAll (draft.addPlain text) rest
        | .flag .help none => .error .help
        | .flag .help (some _) => .error .misuse
        | .flag flag (some value) => readAll (draft.choose flag (attachedValue value)) rest
        | .flag flag none =>
            match rest with
            | [] => .error .misuse
            | value :: rest =>
                if Word.ofText value = .plain then readAll (draft.choose flag (some value)) rest
                else .error .misuse
        | .ambiguous => .error .misuse
        | .unknown => readAll draft.addSurplus rest

/-- An argument that could be several flags is misuse, whatever comes before it. -/
def hasAmbiguous (texts : List String) : Bool :=
  (texts.takeWhile (· ≠ separator)).any fun text => Word.ofText text == .ambiguous

def read (texts : List String) : Except Refusal Arguments := do
  if hasAmbiguous texts then throw .misuse
  let draft ← readAll .empty texts
  draft.finish

/-- Empty values lay nothing over the configuration. -/
def given (field : String) (value : Option String) : List (String × Value) :=
  match value with
  | none => []
  | some value => if value = "" then [] else [(field, .string value)]

def sectionOf (name : String) : List (String × Value) → List (String × Value)
  | [] => []
  | fields => [(name, .map (Mapping.ofFields fields))]

/-- What is laid over the configuration: names as they stand, and a level in capitals. -/
def overrides (arguments : Arguments) : Mapping :=
  let choices := arguments.choices
  Mapping.ofFields <|
    sectionOf Settings.sourceName
        (given Settings.serverField.name choices.server ++
          given Settings.databaseField.name choices.database) ++
      sectionOf Settings.observabilityName
        (given Settings.levelField.name (choices.logLevel.map Text.upper))

end Arguments

end WalCheckpoint.Inspection
