import WalCheckpoint.Yaml.Reader

namespace WalCheckpoint.Yaml

/-! Places in a text. A text reads as NUL past its end, a character it cannot contain. -/

def pastEnd : Char := '\x00'

def isBreak (c : Char) : Bool :=
  let n := c.toNat
  n == 10 || n == 0x85 || n == 0x2028 || n == 0x2029

/-- Line breaks of most kinds become newlines. -/
def breakText (c : Char) : Char :=
  if c.toNat = 0x2028 ∨ c.toNat = 0x2029 then c else '\n'

def endsLine (c : Char) : Bool :=
  c == pastEnd || isBreak c

def endsWord (c : Char) : Bool :=
  c == ' ' || endsLine c

def endsIndicator (c : Char) : Bool :=
  c == '\t' || endsWord c

def isSpaceOrTab (c : Char) : Bool :=
  c == ' ' || c == '\t'

def byteOrderMark : Char := '\uFEFF'

def isPrintable (c : Char) : Bool :=
  let n := c.toNat
  n == 9 || n == 10 || n == 13 || (0x20 ≤ n && n ≤ 0x7E) || n == 0x85 ||
    (0xA0 ≤ n && n ≤ 0xD7FF) || (0xE000 ≤ n && n ≤ 0xFFFD) || 0x10000 ≤ n

def isWordChar (c : Char) : Bool :=
  c.isAlphanum || c == '-' || c == '_'

structure Cursor where
  rest : List Char
  index : Nat
  line : Nat
  column : Nat
  deriving DecidableEq, Repr

namespace Cursor

def start (text : String) : Cursor := ⟨text.toList, 0, 0, 0⟩

def peek (c : Cursor) (n : Nat) : Char :=
  c.rest[n]?.getD pastEnd

def head (c : Cursor) : Char :=
  c.rest.head?.getD pastEnd

/-- A byte order mark takes no column. -/
def next (c : Cursor) : Cursor :=
  match c.rest with
  | [] => c
  | x :: rest =>
      if isBreak x then ⟨rest, c.index + 1, c.line + 1, 0⟩
      else if x = byteOrderMark then ⟨rest, c.index + 1, c.line, c.column⟩
      else ⟨rest, c.index + 1, c.line, c.column + 1⟩

def advance : Nat → Cursor → Cursor
  | 0, c => c
  | n + 1, c => advance n c.next

def takeWhile (c : Cursor) (p : Char → Bool) : List Char :=
  c.rest.takeWhile p

def dropWhile (c : Cursor) (p : Char → Bool) : Cursor :=
  c.advance (c.takeWhile p).length

def skipSpaces (c : Cursor) : Cursor :=
  c.dropWhile (· == ' ')

def skipSpacesTo (column : Nat) (c : Cursor) : Cursor :=
  c.advance (min (c.takeWhile (· == ' ')).length (column - c.column))

def skipComment (c : Cursor) : Cursor :=
  if c.head = '#' then c.dropWhile fun x => !isBreak x else c

def skipBlankLine (c : Cursor) : Except Fault Cursor :=
  let c := c.skipSpaces.skipComment
  if c.rest.isEmpty then .ok c
  else if isBreak c.head then .ok c.next
  else .error .malformed

/-- Three equal marks, which stand apart from what follows, begin or end a document. -/
def atMarker (mark : Char) (c : Cursor) : Bool :=
  c.peek 0 == mark && c.peek 1 == mark && c.peek 2 == mark && endsIndicator (c.peek 3)

def atDocumentMarker (c : Cursor) : Bool :=
  c.atMarker '-' || c.atMarker '.'

end Cursor

end WalCheckpoint.Yaml
