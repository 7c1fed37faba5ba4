import WalCheckpoint.Text.Broken
import WalCheckpoint.Text.Numeral
import WalCheckpoint.Yaml.Cursor

namespace WalCheckpoint.Yaml.Quoted

open Text (Point)

/-! Scalars in quotes. Line breaks in them are folded: a single one is a space, and of several
the first is left out. -/

inductive Style where
  | single
  | double
  deriving DecidableEq, Repr

def Style.quote : Style → Char
  | .single => '\''
  | .double => '"'

def shortEscapes : List (Char × Nat) :=
  [ ('0', 0), ('a', 7), ('b', 8), ('t', 9), ('\t', 9), ('n', 10), ('v', 11), ('f', 12),
    ('r', 13), ('e', 27), (' ', 32), ('"', 34), ('\\', 92), ('/', 47), ('N', 0x85),
    ('_', 0xA0), ('L', 0x2028), ('P', 0x2029) ]

def shortEscape? (c : Char) : Option Char :=
  ((shortEscapes.find? fun escape => escape.1 == c).map Prod.snd).map Char.ofNat

def codeLength? : Char → Option Nat
  | 'x' => some 2
  | 'u' => some 4
  | 'U' => some 8
  | _ => none

def pointOfCode (n : Nat) : Except Fault Point :=
  match Point.ofCode? n with
  | some point => .ok point
  | none => if n < 0x80000000 then .error .characterOutOfRange else .error .characterTooLarge

def codeAt (length : Nat) (c : Cursor) : Except Fault (Point × Cursor) := do
  let digits := c.rest.take length
  if digits.length = length ∧ digits.all fun x => (Text.Numeral.hexDigit? x).isSome then
    let point ← pointOfCode
      (Text.Numeral.ofDigits 16 (digits.filterMap Text.Numeral.hexDigit?))
    return (point, c.advance length)
  else throw .malformed

/-- Line breaks, with the white space around them passed over. A document cannot end here. -/
def breaksWithin (fuel : Nat) (c : Cursor) : Except Fault (List Char × Cursor) :=
  match fuel with
  | 0 => .ok ([], c)
  | fuel + 1 =>
      if c.atDocumentMarker then .error .malformed
      else
        let c := c.dropWhile isSpaceOrTab
        if isBreak c.head then do
          let (breaks, after) ← breaksWithin fuel c.next
          return (breakText c.head :: breaks, after)
        else .ok ([], c)

def breaks (c : Cursor) : Except Fault (List Char × Cursor) :=
  breaksWithin (c.rest.length + 1) c

/-- White space stands for itself within a line, and is dropped around line breaks. -/
def spaces (c : Cursor) : Except Fault (List Char × Cursor) :=
  let white := c.takeWhile isSpaceOrTab
  let c := c.dropWhile isSpaceOrTab
  if c.rest.isEmpty then .error .malformed
  else if isBreak c.head then do
    let first := breakText c.head
    let (more, after) ← breaks c.next
    let folded :=
      if first ≠ '\n' then [first]
      else if more.isEmpty then [' ']
      else []
    return (folded ++ more, after)
  else .ok (white, c)

def asPoints (read : List Char × Cursor) : List Point × Cursor :=
  (read.1.map .char, read.2)

/-- A backslash before a line break joins the lines. -/
def escaped (c : Cursor) : Except Fault (List Point × Cursor) :=
  match shortEscape? c.head with
  | some char => .ok ([.char char], c.next)
  | none =>
      match codeLength? c.head with
      | some length => (codeAt length c.next).map fun read => ([read.1], read.2)
      | none => if isBreak c.head then (breaks c.next).map asPoints else .error .malformed

def part? (style : Style) (c : Cursor) : Except Fault (Option (List Point × Cursor)) :=
  if c.head = style.quote then
    if style = .single ∧ c.peek 1 = '\'' then .ok (some ([.char '\''], c.advance 2))
    else .ok none
  else if style = .double ∧ c.head = '\\' then (escaped c.next).map some
  else if endsIndicator c.head then (spaces c).map fun read => some (asPoints read)
  else .ok (some ([.char c.head], c.next))

def contentWithin (fuel : Nat) (style : Style) (c : Cursor) :
    Except Fault (List Point × Cursor) :=
  match fuel with
  | 0 => .error .malformed
  | fuel + 1 => do
      match ← part? style c with
      | none => return ([], c.next)
      | some (points, after) =>
          let (content, after) ← contentWithin fuel style after
          return (points ++ content, after)

/-- The content after the opening quote. Each part uses up a character. -/
def content (style : Style) (c : Cursor) : Except Fault (Text.Loose × Cursor) :=
  (contentWithin (c.rest.length + 1) style c).map fun read => (Text.ofPoints read.1, read.2)

end WalCheckpoint.Yaml.Quoted
