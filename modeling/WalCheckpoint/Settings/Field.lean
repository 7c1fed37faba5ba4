import WalCheckpoint.Log.Event
import WalCheckpoint.Settings.Issue
import WalCheckpoint.Text.Bytes
import WalCheckpoint.Text.Lower
import WalCheckpoint.Text.Numeral

namespace WalCheckpoint.Settings

/-! Values of single settings, each with the values that are read as it. -/

/-- A name with at least one character that is not white space. -/
abbrev Name := { name : String // Text.allBlank name = false }

theorem Name.ne_empty (name : Name) : name.val ≠ "" := by
  intro h
  have := name.property
  rw [h] at this
  revert this
  decide

/-- The text of a value, where there is to be one. Bytes count as the text they hold in UTF-8, and
`undecodable` is what is wrong with bytes that hold none. -/
def textOf? (undecodable : Problem) : Value → Option (Except Problem String)
  | .string s => some (.ok s)
  | .broken _ => some (.error .notUnicode)
  | .bytes bs => some ((Text.Bytes.strict? bs).elim (.error undecodable) .ok)
  | _ => none

def readText (value : Value) : Except Problem String :=
  (textOf? .notUnicode value).getD (.error .notText)

def nameOfText (s : String) : Except Problem Name :=
  if s = "" then .error .emptyText
  else if h : Text.allBlank s = false then .ok ⟨s, h⟩
  else .error .blankText

def readName (value : Value) : Except Problem Name :=
  readText value >>= nameOfText

def lowestPort : Nat := 1024

def highestPort : Nat := 65535

/-- A port that needs no privileges. -/
abbrev Port := { port : Nat // lowestPort ≤ port ∧ port ≤ highestPort }

/-- Floating-point numbers are read as whole ones within 64 bits. -/
def wholeOfFloat (x : Binary64) : Except Problem Int :=
  match x.ratio? with
  | none => .error .notFinite
  | some _ =>
      match x.integral? with
      | none => .error .notWhole
      | some n => if n.natAbs < 0x8000000000000000 then .ok n else .error .numeralTooLong

/-- White space around numerals in settings: the separators of information do not count. -/
def isNumeralBlank (c : Char) : Bool :=
  Text.isBlank c && !(28 ≤ c.toNat && c.toNat ≤ 31)

/-- Leading zeros of a numeral, underscores between them included, up to its last digit before a
point or its end. A sign may come after them. -/
def dropZeros : List Char → Option (List Char)
  | [] => none
  | [c] => if c = '_' ∨ c = '-' ∨ c.isDigit then some [c] else none
  | c :: d :: rest =>
      if c = '0' ∨ c = '_' then
        if d = '.' then some (c :: d :: rest) else dropZeros (d :: rest)
      else if c = '-' ∨ c.isDigit then some (c :: d :: rest)
      else none

def unsignedBody (cs : List Char) : Option (List Char) :=
  match cs with
  | '_' :: _ => none
  | cs => dropZeros cs

/-- A point is dropped where only zeros follow it, and at least one. -/
def dropPoint (cs : List Char) : List Char :=
  match cs.dropWhile (· ≠ '.') with
  | _ :: zeros =>
      if !zeros.isEmpty && zeros.all (· = '0') then cs.takeWhile (· ≠ '.') else cs
  | [] => cs

def doubledUnderscore : List Char → Bool
  | '_' :: '_' :: _ => true
  | _ :: rest => doubledUnderscore rest
  | [] => false

/-- Underscores are dropped where each stands alone within the numeral. -/
def dropUnderscores (cs : List Char) : List Char :=
  if cs.head? = some '_' ∨ cs.getLast? = some '_' ∨ doubledUnderscore cs then cs
  else cs.filter (· ≠ '_')

def plainNumeral (negative : Bool) (cs : List Char) : Except Problem Int :=
  if cs.isEmpty ∨ !cs.all Char.isDigit ∨ (cs.head? = some '0' ∧ 1 < cs.length) then
    .error .notNumeral
  else if Text.Numeral.digitLimit < cs.length then .error .numeralTooLong
  else .ok (Text.Numeral.signed negative
    (Text.Numeral.ofDigits 10 (cs.filterMap Text.Numeral.decimalDigit?)))

def wholeOfText (s : String) : Except Problem Int :=
  let body :=
    match Text.trimBy isNumeralBlank s.toList with
    | '+' :: '-' :: _ => none
    | '+' :: rest => unsignedBody rest
    | '-' :: rest => (unsignedBody rest).map ('-' :: ·)
    | cs => unsignedBody cs
  match body.map fun cs => dropUnderscores (dropPoint cs) with
  | none => .error .notNumeral
  | some ('-' :: rest) => plainNumeral true rest
  | some cs => plainNumeral false cs

def readWhole (value : Value) : Except Problem Int :=
  match value with
  | .bool b => .ok (if b then 1 else 0)
  | .int n => .ok n
  | .float x => wholeOfFloat x
  | value => ((textOf? .notNumeral value).getD (.error .notNumber)) >>= wholeOfText

def readPort (value : Value) : Except Problem Port :=
  match readWhole value with
  | .error problem => .error problem
  | .ok n =>
      if (highestPort : Int) < n then .error .tooLarge
      else if hlow : n < (lowestPort : Int) then .error .tooSmall
      else if hhigh : n.toNat ≤ highestPort then .ok ⟨n.toNat, by omega, hhigh⟩
      else .error .tooLarge

def switchWords : List (String × Bool) :=
  [ ("0", false), ("off", false), ("f", false), ("false", false), ("n", false), ("no", false),
    ("1", true), ("on", true), ("t", true), ("true", true), ("y", true), ("yes", true) ]

def readSwitchNumber (n : Int) : Except Problem Bool :=
  if n = 0 then .ok false
  else if n = 1 then .ok true
  else .error .notSwitchWord

def readSwitchWord (s : String) : Except Problem Bool :=
  match (switchWords.find? fun word => word.1 == s.toLower).map Prod.snd with
  | some b => .ok b
  | none => .error .notSwitchWord

/-- Switches are truth values, the numbers zero and one, and the words for them in letters of
either case. -/
def readSwitch : Value → Except Problem Bool
  | .bool b => .ok b
  | .int n =>
      if -0x8000000000000000 ≤ n ∧ n < 0x8000000000000000 then readSwitchNumber n
      else .error .notSwitch
  | .float x =>
      match wholeOfFloat x with
      | .ok n => readSwitchNumber n
      | .error _ => .error .notSwitch
  | value => ((textOf? .notSwitchWord value).getD (.error .notSwitch)) >>= readSwitchWord

def choiceOfText (choices : List (String × α)) (s : String) : Except Problem α :=
  match (choices.find? fun choice => choice.1 == s).map Prod.snd with
  | some choice => .ok choice
  | none => .error .noSuchChoice

def readChoice (choices : List (String × α)) (value : Value) : Except Problem α :=
  readText value >>= choiceOfText choices

def levelChoices : List (String × Log.Level) :=
  [ ("DEBUG", .debug), ("INFO", .info), ("WARNING", .warning), ("ERROR", .error),
    ("CRITICAL", .critical) ]

def levelName (level : Log.Level) : String :=
  ((levelChoices.find? fun choice => choice.2 == level).map Prod.fst).getD ""

def formatChoices : List (String × Log.Format) :=
  [("json", .json), ("console", .console)]

structure Field (α : Type) where
  name : String
  read : Value → Except Problem α
  default? : Option α

def given? (given : Mapping) (name : String) : Option Value :=
  (given.find? fun entry =>
    match entry.1 with
    | .string spelling => Text.lower spelling == name
    | _ => false).map Prod.snd

namespace Field

/-- The value that counts for a setting: the given one, else that of its variable. -/
def source? (f : Field α) (given : Mapping) (lookup? : String → Option Value) :
    Option Value :=
  match given? given f.name with
  | some value => some value
  | none => lookup? f.name

def resolve (f : Field α) (given : Mapping) (lookup? : String → Option Value) :
    Except Issue α :=
  match f.source? given lookup? with
  | some value =>
      match f.read value with
      | .ok a => .ok a
      | .error problem => .error ⟨[f.name], problem⟩
  | none =>
      match f.default? with
      | some a => .ok a
      | none => .error ⟨[f.name], .missing⟩

end Field

def unknownFields (known : List String) (given : Mapping) : List Issue :=
  given.filterMap fun (key, _) =>
    match key with
    | .string name =>
        if Text.lower name ∈ known then none else some ⟨[name], .unknownField⟩
    | .broken name => some ⟨[name.escaped], .notUnicode⟩
    | _ => none

end WalCheckpoint.Settings
