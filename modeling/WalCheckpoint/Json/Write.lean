import WalCheckpoint.Value.Display

namespace WalCheckpoint

/-! Values as JSON text, in ASCII. -/

namespace Json

inductive Unwritable where
  | numeral
  | key
  deriving DecidableEq, Repr

def floatSpelling : Binary64.Spelling := ⟨"NaN", "Infinity"⟩

def writeBool (b : Bool) : String :=
  if b then "true" else "false"

/-- Halves of pairs that meet are read back as a character. -/
def imageOfBroken (text : Text.Broken) : Value :=
  .ofLoose (Text.ofPoints (Text.Broken.joinHalves text.val))

def keyName? : Value → Except Unwritable Value
  | .null => .ok (.string "null")
  | .bool b => .ok (.string (writeBool b))
  | .int n =>
      match Text.Numeral.write? n with
      | some text => .ok (.string text)
      | none => .error .numeral
  | .float x => .ok (.string (x.write floatSpelling))
  | .string s => .ok (.string s)
  | .broken text => .ok (imageOfBroken text)
  | _ => .error .key

mutual
/-- The value that the JSON text of a value holds: keys become names, pairs become lists, and bytes,
sets and dates the text that messages show. -/
def image? : Value → Except Unwritable Value
  | .int n =>
      match Text.Numeral.write? n with
      | some _ => .ok (.int n)
      | none => .error .numeral
  | .broken text => .ok (imageOfBroken text)
  | .bytes bs => .ok (.string (Text.Bytes.quoted bs))
  | .list items => do
      let items ← imageItems? items
      return .list items
  | .pair first second => do
      let first ← image? first
      let second ← image? second
      return .list [first, second]
  | .set members =>
      match (Value.set members).display? with
      | some text => .ok (.string text)
      | none => .error .numeral
  | .map entries => do
      let entries ← imageEntries? entries
      return .map (Mapping.ofEntries entries)
  | .date d => .ok (.string (Value.displayDate d))
  | .dateTime t => .ok (.string (Value.displayDateTime t))
  | value => .ok value
termination_by structural value => value

def imageItems? : List Value → Except Unwritable (List Value)
  | [] => .ok []
  | item :: rest => do
      let item ← image? item
      let items ← imageItems? rest
      return item :: items
termination_by structural items => items

def imageEntries? : List (Value × Value) → Except Unwritable (List (Value × Value))
  | [] => .ok []
  | (key, value) :: rest => do
      let name ← keyName? key
      let value ← image? value
      let entries ← imageEntries? rest
      return (name, value) :: entries
termination_by structural entries => entries
end

/-- A character beyond the basic plane is written as two units. -/
def escapeUnit (n : Nat) : List Char :=
  '\\' :: 'u' :: Text.paddedHex 4 n

def escapeChar (c : Char) : List Char :=
  let n := c.toNat
  if c = '"' then ['\\', '"']
  else if c = '\\' then ['\\', '\\']
  else if c = '\n' then ['\\', 'n']
  else if c = '\r' then ['\\', 'r']
  else if c = '\t' then ['\\', 't']
  else if n = 12 then ['\\', 'f']
  else if n = 8 then ['\\', 'b']
  else if 32 ≤ n ∧ n < 127 then [c]
  else if n < 0x10000 then escapeUnit n
  else escapeUnit (0xD800 + (n - 0x10000) / 0x400) ++ escapeUnit (0xDC00 + (n - 0x10000) % 0x400)

def writeString (s : String) : List Char :=
  '"' :: s.toList.flatMap escapeChar ++ ['"']

def escapePoint : Text.Point → List Char
  | .char c => escapeChar c
  | .half unit => escapeUnit (Text.Point.half unit).code

def writeBroken (text : Text.Broken) : List Char :=
  '"' :: text.val.flatMap escapePoint ++ ['"']

/-- How the parts of a list or mapping are set apart: on one line, or on lines of their own
with an indentation for each level. -/
inductive Layout where
  | line
  | indented (width : Nat)
  deriving DecidableEq, Repr

namespace Layout

def lineBreak (layout : Layout) (depth : Nat) : List Char :=
  match layout with
  | .line => []
  | .indented width => '\n' :: List.replicate (width * depth) ' '

def separator (layout : Layout) (depth : Nat) : List Char :=
  match layout with
  | .line => [',', ' ']
  | .indented _ => ',' :: layout.lineBreak depth

/-- Parts between two marks; a list or mapping without parts stays on its line. -/
def enclose (layout : Layout) (depth : Nat) (opening closing : Char)
    (parts : List (List Char)) : List Char :=
  if parts.isEmpty then [opening, closing]
  else
    opening :: layout.lineBreak (depth + 1) ++
      List.intercalate (layout.separator (depth + 1)) parts ++
      layout.lineBreak depth ++ [closing]

end Layout

mutual
def write (layout : Layout) (depth : Nat) : Value → List Char
  | .null => ['n', 'u', 'l', 'l']
  | .bool b => (writeBool b).toList
  | .int n => (toString n).toList
  | .float x => (x.write floatSpelling).toList
  | .string s => writeString s
  | .broken text => writeBroken text
  | .bytes bs => writeString (Text.Bytes.quoted bs)
  | .list items => layout.enclose depth '[' ']' (writeItems layout (depth + 1) items)
  | .pair first second =>
      layout.enclose depth '[' ']' [write layout (depth + 1) first, write layout (depth + 1) second]
  | .set members => writeString ((Value.set members).display?.getD "")
  | .map entries =>
      layout.enclose depth '\x7b' '\x7d' (writeEntries layout (depth + 1) entries)
  | .date d => writeString (Value.displayDate d)
  | .dateTime t => writeString (Value.displayDateTime t)
  | .enclosing isList => writeString (Value.displayEnclosing isList)
termination_by structural value => value

def writeItems (layout : Layout) (depth : Nat) : List Value → List (List Char)
  | [] => []
  | item :: rest => write layout depth item :: writeItems layout depth rest
termination_by structural items => items

def writeEntries (layout : Layout) (depth : Nat) : List (Value × Value) → List (List Char)
  | [] => []
  | (key, value) :: rest =>
      (write layout depth key ++ ':' :: ' ' :: write layout depth value) ::
        writeEntries layout depth rest
termination_by structural entries => entries
end

end Json

end WalCheckpoint
