import WalCheckpoint.Text.Broken
import WalCheckpoint.Text.Numeral
import WalCheckpoint.Yaml.Cursor

namespace WalCheckpoint.Yaml

/-! The parts a text falls into, where indentation shows as parts of its own. -/

/-- A tag as it is written: a handle, which stands for the beginning of the tag, and the rest. -/
structure TagText where
  handle : Option String
  suffix : String
  deriving DecidableEq, Repr

inductive Directive where
  | version (major : Nat)
  | tag (handle : String) (replacement : String)
  | other
  deriving DecidableEq, Repr

/-- A text that goes wrong ends in a fault. -/
inductive Token where
  | streamEnd
  | directive (d : Directive)
  | documentStart
  | documentEnd
  | blockSequenceStart
  | blockMappingStart
  | blockEnd
  | flowSequenceStart
  | flowSequenceEnd
  | flowMappingStart
  | flowMappingEnd
  | blockEntry
  | flowEntry
  | key
  | value
  | reference (name : String)
  | anchor (name : String)
  | tag (t : TagText)
  | scalar (text : Text.Loose) (isPlain : Bool)
  | fault (f : Fault)
  deriving DecidableEq, Repr

namespace Token

def word (c : Cursor) : Except Fault (String × Cursor) :=
  let name := c.takeWhile isWordChar
  if name.isEmpty then .error .malformed
  else .ok (String.ofList name, c.dropWhile isWordChar)

def endsName (c : Char) : Bool :=
  endsIndicator c || "?:,]\x7d%@`".toList.contains c

def anchorName (c : Cursor) : Except Fault (String × Cursor) := do
  let (name, c) ← word c
  if endsName c.head then return (name, c) else throw .malformed

def isTagChar (c : Char) : Bool :=
  isWordChar c || ";/?:@&=+$,.!~*'()[]%".toList.contains c

/-- Bytes written as percent signs with two hexadecimal digits each. -/
def percentBytes : List Char → Except Fault (List UInt8 × List Char)
  | '%' :: a :: b :: rest =>
      match Text.Numeral.hexDigit? a, Text.Numeral.hexDigit? b with
      | some high, some low => do
          let (bytes, rest) ← percentBytes rest
          return (UInt8.ofNat (16 * high + low) :: bytes, rest)
      | _, _ => .error .malformed
  | '%' :: _ => .error .malformed
  | rest => .ok ([], rest)

def decodePercent (fuel : Nat) (cs : List Char) : Except Fault (List Char) :=
  match fuel, cs with
  | 0, _ => .ok []
  | _, [] => .ok []
  | fuel + 1, '%' :: rest => do
      let (bytes, rest) ← percentBytes ('%' :: rest)
      match String.fromUTF8? bytes.toByteArray with
      | none => throw .malformed
      | some text =>
          let more ← decodePercent fuel rest
          return text.toList ++ more
  | fuel + 1, c :: rest => do
      let more ← decodePercent fuel rest
      return c :: more

def tagSuffix (c : Cursor) : Except Fault (String × Cursor) := do
  let written := c.takeWhile isTagChar
  if written.isEmpty then throw .malformed
  let suffix ← decodePercent written.length written
  return (String.ofList suffix, c.dropWhile isTagChar)

/-- A handle: one exclamation mark, or a word between two. -/
def tagHandle (c : Cursor) : Except Fault (String × Cursor) :=
  if c.head ≠ '!' then .error .malformed
  else if c.peek 1 = ' ' then .ok ("!", c.next)
  else
    let name := c.next.takeWhile isWordChar
    let after := c.next.dropWhile isWordChar
    if after.head = '!' then .ok (String.ofList ('!' :: name ++ ['!']), after.next)
    else .error .malformed

def hasHandle (c : Cursor) : Bool :=
  (c.next.takeWhile fun x => !endsWord x).contains '!'

def tagText (c : Cursor) : Except Fault (TagText × Cursor) := do
  let (read, c) ←
    if c.peek 1 = '<' then do
      let (suffix, c) ← tagSuffix (c.advance 2)
      if c.head = '>' then pure ((⟨none, suffix⟩ : TagText), c.next) else throw .malformed
    else if endsIndicator (c.peek 1) then pure (⟨none, "!"⟩, c.next)
    else do
      let (handle, c) ← if hasHandle c then tagHandle c else pure ("!", c.next)
      let (suffix, c) ← tagSuffix c
      pure (⟨some handle, suffix⟩, c)
  if endsWord c.head then return (read, c) else throw .malformed

def number (c : Cursor) : Except Fault (Nat × Cursor) :=
  let digits := c.takeWhile Char.isDigit
  if digits.isEmpty then .error .malformed
  else if Text.Numeral.digitLimit < digits.length then .error .badNumber
  else
    .ok (Text.Numeral.ofDigits 10 (digits.filterMap Text.Numeral.decimalDigit?),
      c.dropWhile Char.isDigit)

def versionDirective (c : Cursor) : Except Fault (Directive × Cursor) := do
  let (major, c) ← number c.skipSpaces
  if c.head ≠ '.' then throw .malformed
  let (_, c) ← number c.next
  if endsWord c.head then return (.version major, c) else throw .malformed

def tagDirective (c : Cursor) : Except Fault (Directive × Cursor) := do
  let (handle, c) ← tagHandle c.skipSpaces
  if c.head ≠ ' ' then throw .malformed
  let (replacement, c) ← tagSuffix c.skipSpaces
  if endsWord c.head then return (.tag handle replacement, c) else throw .malformed

def directiveText (c : Cursor) : Except Fault (Directive × Cursor) := do
  let (name, c) ← word c
  if !endsWord c.head then throw .malformed
  let (read, c) ←
    match name with
    | "YAML" => versionDirective c
    | "TAG" => tagDirective c
    | _ => pure (.other, c.dropWhile fun x => !isBreak x)
  let c ← c.skipBlankLine
  return (read, c)

end Token

end WalCheckpoint.Yaml
