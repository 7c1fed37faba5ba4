import WalCheckpoint.Settings.Variables
import WalCheckpoint.Text.Blank

namespace WalCheckpoint.Settings.VariableFile

/-! Files of variables: statements `NAME=value`, one to a line but for values in quotes, which
may span lines. Statements may begin with `export`, and comments with a number sign. A statement
that cannot be read is left out together with the rest of its line. -/

def isLineEnd (c : Char) : Bool :=
  c = '\n' || c = '\r'

def isSpacing (c : Char) : Bool :=
  Text.isBlank c && !isLineEnd c

def skipSpacing (cs : List Char) : List Char :=
  cs.dropWhile isSpacing

/-- The rest after a part of a statement, or the place where the statement stopped making
sense. -/
abbrev Part (α : Type) := Except (List Char) (α × List Char)

def skipExport (cs : List Char) : List Char :=
  match Json.afterText? "export".toList cs with
  | some (c :: rest) => if isSpacing c then skipSpacing rest else cs
  | _ => cs

def isNameChar (c : Char) : Bool :=
  c ≠ '=' && c ≠ '#' && !Text.isBlank c

/-- The name in front of a statement; a comment has none. -/
def statementName (cs : List Char) : Part (Option String) :=
  match cs with
  | '#' :: _ => .ok (none, cs)
  | '\'' :: rest =>
      let name := rest.takeWhile (· ≠ '\'')
      match rest.dropWhile (· ≠ '\'') with
      | _ :: after =>
          if name.isEmpty then .error cs else .ok (some (String.ofList name), after)
      | [] => .error cs
  | cs =>
      let name := cs.takeWhile isNameChar
      if name.isEmpty then .error cs
      else .ok (some (String.ofList name), cs.dropWhile isNameChar)

/-- Splits at the closing quote. A backslash takes the character after it along, which then closes
nothing. -/
def splitAtQuote (quote : Char) : List Char → Option (List Char × List Char)
  | [] => none
  | '\\' :: d :: rest =>
      (splitAtQuote quote rest).map fun split => ('\\' :: d :: split.1, split.2)
  | c :: rest =>
      if c = quote then some ([], rest)
      else (splitAtQuote quote rest).map fun split => (c :: split.1, split.2)

def singleQuoteEscape? : Char → Option Char
  | '\\' => some '\\'
  | '\'' => some '\''
  | _ => none

def doubleQuoteEscape? : Char → Option Char
  | '\\' => some '\\'
  | '\'' => some '\''
  | '"' => some '"'
  | 'a' => some (Char.ofNat 7)
  | 'b' => some (Char.ofNat 8)
  | 'f' => some (Char.ofNat 12)
  | 'n' => some '\n'
  | 'r' => some '\r'
  | 't' => some '\t'
  | 'v' => some (Char.ofNat 11)
  | _ => none

/-- A backslash in front of a character that it does not change is kept. -/
def unescape (escape? : Char → Option Char) : List Char → List Char
  | [] => []
  | [c] => [c]
  | c :: d :: rest =>
      if c = '\\' then
        match escape? d with
        | some e => e :: unescape escape? rest
        | none => c :: unescape escape? (d :: rest)
      else c :: unescape escape? (d :: rest)

def quotedValue (quote : Char) (escape? : Char → Option Char) (cs : List Char) : Part String :=
  match splitAtQuote quote cs with
  | some (body, after) => .ok (String.ofList (unescape escape? body), after)
  | none => .error (quote :: cs)

/-- A number sign after white space begins a comment. -/
def dropComment (afterBlank : Bool) : List Char → List Char
  | [] => []
  | c :: rest =>
      if afterBlank ∧ c = '#' then [] else c :: dropComment (Text.isBlank c) rest

def statementValue (cs : List Char) : Part String :=
  match skipSpacing cs with
  | '\'' :: rest => quotedValue '\'' singleQuoteEscape? rest
  | '"' :: rest => quotedValue '"' doubleQuoteEscape? rest
  | _ =>
      let line := cs.takeWhile fun c => !isLineEnd c
      .ok (String.ofList (Text.trimBy Text.isBlank (dropComment false line)),
        cs.dropWhile fun c => !isLineEnd c)

def optionalValue (cs : List Char) : Part (Option String) :=
  match skipSpacing cs with
  | '=' :: rest => (statementValue rest).map fun read => (some read.1, read.2)
  | cs => .ok (none, cs)

def skipComment (cs : List Char) : List Char :=
  match skipSpacing cs with
  | '#' :: rest => rest.dropWhile fun c => !isLineEnd c
  | _ => cs

def statementEnd (cs : List Char) : Part Unit :=
  match skipSpacing cs with
  | [] => .ok ((), [])
  | c :: rest => if isLineEnd c then .ok ((), rest) else .error cs

def skipLine (cs : List Char) : List Char :=
  (cs.dropWhile fun c => !isLineEnd c).drop 1

inductive Statement where
  | comment
  | binding (name : String) (value : Option String)
  | unreadable
  deriving DecidableEq, Repr

def statementParts (cs : List Char) : Except (List Char) (Statement × List Char) := do
  let (name, cs) ← statementName (skipExport cs)
  let (value, cs) ← optionalValue cs
  let ((), cs) ← statementEnd (skipComment cs)
  match name with
  | some name => return (.binding name value, cs)
  | none => return (.comment, cs)

def statement (cs : List Char) : Statement × List Char :=
  match statementParts cs with
  | .ok read => read
  | .error rest => (.unreadable, skipLine rest)

def statementsWithin (fuel : Nat) (cs : List Char) : List Statement :=
  match fuel with
  | 0 => []
  | fuel + 1 =>
      match cs.dropWhile Text.isBlank with
      | [] => []
      | cs =>
          let (read, rest) := statement cs
          read :: statementsWithin fuel rest

def dropByteOrderMark : List Char → List Char
  | '\uFEFF' :: rest => rest
  | cs => cs

/-- Every statement uses up a character, so their number bounds the number of statements. -/
def statements (text : String) : List Statement :=
  statementsWithin text.length (dropByteOrderMark text.toList)

def reference? (cs : List Char) : Option (String × String × List Char) :=
  let name := cs.takeWhile fun c => c ≠ '\x7d' ∧ c ≠ ':'
  match cs.dropWhile fun c => c ≠ '\x7d' ∧ c ≠ ':' with
  | '\x7d' :: rest => some (String.ofList name, "", rest)
  | ':' :: '-' :: rest =>
      match rest.dropWhile (· ≠ '\x7d') with
      | _ :: after =>
          some (String.ofList name, String.ofList (rest.takeWhile (· ≠ '\x7d')), after)
      | [] => none
  | _ => none

/-- Replaces references to other variables by what they stand for; without end the rest of the
text is what is left of it at most. -/
def expandWithin (value? : String → Option String) (fuel : Nat) (cs : List Char) :
    List Char :=
  match fuel, cs with
  | 0, cs => cs
  | _, [] => []
  | fuel + 1, '$' :: '\x7b' :: rest =>
      match reference? rest with
      | some (name, default, after) =>
          ((value? name).getD default).toList ++ expandWithin value? fuel after
      | none => '$' :: expandWithin value? fuel ('\x7b' :: rest)
  | fuel + 1, c :: rest => c :: expandWithin value? fuel rest

def expand (value? : String → Option String) (text : String) : String :=
  String.ofList (expandWithin value? text.length text.toList)

abbrev Bindings := Keyed (Option String)

/-- A name without a text counts as empty. -/
def boundText? (bindings : Bindings) (name : String) : Option String :=
  (Keyed.get? bindings (.string name)).map fun text => text.getD ""

/-- Binds names in turn. In their texts a name stands for what the file bound it to before,
else for what it is outside of the file. -/
def bind (outer : String → Option String) (bindings : List (String × Option String)) :
    Bindings :=
  bindings.foldl
    (fun bound (name, text) =>
      let value? (name : String) : Option String :=
        match boundText? bound name with
        | some text => some text
        | none => outer name
      Keyed.insert (.string name) (text.map (expand value?)) bound)
    []

def bindingOf? : Statement → Option (String × Option String)
  | .binding name value => some (name, value)
  | _ => none

def unreadableCount (text : String) : Nat :=
  (statements text).countP (· == .unreadable)

def read (outer : String → Option String) (text : String) :
    List (String × Option String) :=
  (bind outer ((statements text).filterMap bindingOf?)).filterMap fun (name, text) =>
    match name with
    | .string name => some (name, text)
    | _ => none

end WalCheckpoint.Settings.VariableFile
