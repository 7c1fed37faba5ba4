import WalCheckpoint.Text.Broken
import WalCheckpoint.Text.Lower
import WalCheckpoint.Yaml.Scalar.Binary
import WalCheckpoint.Yaml.Scalar.Timestamp

namespace WalCheckpoint.Yaml

/-! What a node is, which a plain scalar shows by its text. -/

inductive Tag where
  | null
  | bool
  | int
  | float
  | timestamp
  | binary
  | merge
  | value
  | text
  | sequence
  | mapping
  | pairs
  | set
  | other (name : String)
  deriving DecidableEq, Repr

def boolWords : List (String × Bool) :=
  [ ("yes", true), ("no", false), ("true", true), ("false", false), ("on", true),
    ("off", false) ]

def boolWord? (word : String) : Option Bool :=
  (boolWords.find? fun entry => entry.1 == Text.lower word).map Prod.snd

/-- Whether a word is in small letters, in capitals, or in small letters after a capital. -/
def isEvenlySpelled (word : String) : Bool :=
  word == word.toLower || word == word.toUpper || word == word.toLower.capitalize

def nullWords : List String := ["", "~", "null", "Null", "NULL"]

namespace Tag

def standardStart : String := "tag:yaml.org,2002:"

/-- Signs that make a scalar of a kind that nothing is built from. -/
def reserved : Tag := .other (standardStart ++ "yaml")

/-- A line end after a word is passed over where the kind of the word is looked at. -/
def kindText (text : String) : String :=
  let cs := text.toList
  if 1 < cs.length ∧ cs.getLast? = some '\n' then String.ofList cs.dropLast else text

/-- What a plain scalar is: the first kind that its text is written as, and else text. -/
def ofPlain (text : String) : Tag :=
  let word := kindText text
  let cs := word.toList
  if (boolWord? word).isSome && isEvenlySpelled word then .bool
  else if Number.isFloat cs then .float
  else if Number.isInt cs then .int
  else if word = "<<" then .merge
  else if nullWords.contains word then .null
  else if Timestamp.isOne cs then .timestamp
  else if word = "=" then .value
  else if word = "!" ∨ word = "&" ∨ word = "*" then reserved
  else .text

def ofLoose : Text.Loose → Tag
  | .sound word => ofPlain word
  | .broken _ => .text

def standard : List (String × Tag) :=
  [ ("null", .null), ("bool", .bool), ("int", .int), ("float", .float),
    ("timestamp", .timestamp), ("binary", .binary), ("merge", .merge), ("value", .value),
    ("str", .text), ("seq", .sequence), ("map", .mapping), ("omap", .pairs), ("pairs", .pairs),
    ("set", .set) ]

def ofName (name : String) : Tag :=
  match standard.find? fun entry => standardStart ++ entry.1 == name with
  | some entry => entry.2
  | none => .other name

/-- Kinds that have an order or a number of parts of their own. -/
def isCollection : Tag → Bool
  | .sequence | .mapping | .pairs | .set => true
  | _ => false

/-- Kinds that are known by their text. -/
def isScalar : Tag → Bool
  | .null | .bool | .int | .float | .timestamp | .binary | .text => true
  | _ => false

end Tag

end WalCheckpoint.Yaml
