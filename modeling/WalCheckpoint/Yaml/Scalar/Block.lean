import WalCheckpoint.Yaml.Cursor

namespace WalCheckpoint.Yaml.Block

/-! Scalars set apart by indentation, whose lines are kept or folded. -/

inductive Style where
  | literal
  | folded
  deriving DecidableEq, Repr

/-- What becomes of the line breaks at the end: all but the first are dropped, all are, or none
is. -/
inductive Chomping where
  | clip
  | strip
  | keep
  deriving DecidableEq, Repr

structure Header where
  chomping : Chomping
  increment : Option Nat
  deriving DecidableEq, Repr

def chomping? : Char → Option Chomping
  | '+' => some .keep
  | '-' => some .strip
  | _ => none

/-- An indentation is given by one digit, which is not zero. -/
def increment (c : Cursor) : Except Fault (Option Nat × Cursor) :=
  if c.head.isDigit then
    if c.head = '0' then .error .malformed else .ok (some (c.head.toNat - 48), c.next)
  else .ok (none, c)

/-- Chomping and indentation in either order, and the rest of the line. -/
def header (c : Cursor) : Except Fault (Header × Cursor) := do
  let (read, c) ←
    match chomping? c.head with
    | some chomping =>
        (increment c.next).map fun read => ((⟨chomping, read.1⟩ : Header), read.2)
    | none => do
        let (digit, c) ← increment c
        match digit, chomping? c.head with
        | some digit, some chomping => pure (⟨chomping, some digit⟩, c.next)
        | digit, _ => pure (⟨.clip, digit⟩, c)
  if endsWord c.head then
    let c ← c.skipBlankLine
    return (read, c)
  else throw .malformed

structure Leading where
  breaks : List Char
  indent : Nat
  after : Cursor
  deriving DecidableEq, Repr

/-- Blank lines in front of the first line with text, and the widest indentation there. -/
def leadingWithin (fuel : Nat) (c : Cursor) : Leading :=
  match fuel with
  | 0 => ⟨[], 0, c⟩
  | fuel + 1 =>
      if c.head = ' ' then
        let more := leadingWithin fuel c.next
        { more with indent := max c.next.column more.indent }
      else if isBreak c.head then
        let more := leadingWithin fuel c.next
        { more with breaks := breakText c.head :: more.breaks }
      else ⟨[], 0, c⟩

/-- Line breaks and the indentation of the line after them, up to the given column. -/
def breaksWithin (fuel : Nat) (indent : Nat) (c : Cursor) : List Char × Cursor :=
  let c := c.skipSpacesTo indent
  match fuel with
  | 0 => ([], c)
  | fuel + 1 =>
      if isBreak c.head then
        let (more, after) := breaksWithin fuel indent c.next
        (breakText c.head :: more, after)
      else ([], c)

def breaks (indent : Nat) (c : Cursor) : List Char × Cursor :=
  breaksWithin c.rest.length indent c

def atLine (indent : Nat) (c : Cursor) : Bool :=
  c.column == indent && !c.rest.isEmpty

/-- A line break between two lines that begin with text is folded to a space, or to the blank
lines after it. -/
def joint (style : Style) (lineBreak : List Char) (more : List Char) (leadingText nextText : Bool) :
    List Char :=
  if style = .folded ∧ lineBreak = ['\n'] ∧ leadingText ∧ nextText then
    if more.isEmpty then [' '] else []
  else lineBreak

def tail (chomping : Chomping) (lineBreak more : List Char) : List Char :=
  match chomping with
  | .clip => lineBreak
  | .strip => []
  | .keep => lineBreak ++ more

def linesWithin (fuel : Nat) (style : Style) (chomping : Chomping) (indent : Nat)
    (lineBreak more : List Char) (c : Cursor) : List Char × Cursor :=
  match fuel with
  | 0 => (tail chomping lineBreak more, c)
  | fuel + 1 =>
      if atLine indent c then
        let leadingText := !isSpaceOrTab c.head
        let line := c.takeWhile fun x => !isBreak x
        let ended := c.dropWhile fun x => !isBreak x
        let lineBreak' := if isBreak ended.head then [breakText ended.head] else []
        let (more', after) := breaks indent (if isBreak ended.head then ended.next else ended)
        let between :=
          if atLine indent after then
            joint style lineBreak' more' leadingText (!isSpaceOrTab after.head)
          else []
        let (content, last) :=
          linesWithin fuel style chomping indent lineBreak' more' after
        let content := if atLine indent after then between ++ more' ++ content else content
        (line ++ content, last)
      else (tail chomping lineBreak more, c)

/-- The content after the mark of the style, within lines that are indented by more than the
given column. -/
def content (style : Style) (outer : Int) (c : Cursor) : Except Fault (List Char × Cursor) := do
  let (read, c) ← header c
  let least := max 1 (outer + 1).toNat
  let (more, indent, c) :=
    match read.increment with
    | some increment =>
        let indent := least + increment - 1
        let (more, c) := breaks indent c
        (more, indent, c)
    | none =>
        let leading := leadingWithin c.rest.length c
        (leading.breaks, max least leading.indent, leading.after)
  let (lines, after) := linesWithin (c.rest.length + 1) style read.chomping indent [] more c
  let first := if atLine indent c then more else []
  return (first ++ lines, after)

end WalCheckpoint.Yaml.Block
