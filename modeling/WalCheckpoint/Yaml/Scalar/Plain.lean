import WalCheckpoint.Yaml.Cursor

namespace WalCheckpoint.Yaml.Plain

/-! Scalars without quotes, which end where something else begins. -/

def isFlowMark (c : Char) : Bool :=
  c == ',' || c == '[' || c == ']' || c == '\x7b' || c == '\x7d'

def endsKey (inFlow : Bool) (c : Char) : Bool :=
  endsIndicator c || (inFlow && isFlowMark c)

/-- Where a word of a scalar ends: at white space, at a colon that ends a key, and among
brackets at what sets entries apart. -/
def endsPlainWord (inFlow : Bool) (c next : Char) : Bool :=
  endsIndicator c || (c == ':' && endsKey inFlow next) ||
    (inFlow && (isFlowMark c || c == '?'))

def wordLength (inFlow : Bool) : List Char → Nat
  | [] => 0
  | c :: rest =>
      if endsPlainWord inFlow c (rest.head?.getD pastEnd) then 0
      else wordLength inFlow rest + 1

def startsAt (inFlow : Bool) (c : Cursor) : Bool :=
  let special : Bool := "-?:,[]\x7b\x7d#&*!|>'\"%@`".toList.contains c.head
  !(endsIndicator c.head || special) ||
    (!endsIndicator (c.peek 1) &&
      (c.head == '-' || (!inFlow && (c.head == '?' || c.head == ':'))))

/-- What stands between two words: the text it folds to, and whether a line ended in it. -/
structure Gap where
  text : List Char
  brokeLine : Bool
  after : Cursor
  deriving DecidableEq, Repr

/-- The line breaks up to the next word, or nothing where a document ends on the way. -/
def breaksWithin (fuel : Nat) (c : Cursor) : Option (List Char × Cursor) :=
  match fuel with
  | 0 => some ([], c)
  | fuel + 1 =>
      if c.atDocumentMarker then none
      else
        let c := c.skipSpaces
        if isBreak c.head then
          (breaksWithin fuel c.next).map fun read => (breakText c.head :: read.1, read.2)
        else some ([], c)

def gap (c : Cursor) : Gap :=
  let white := c.takeWhile (· == ' ')
  let c := c.skipSpaces
  if isBreak c.head then
    let first := breakText c.head
    match breaksWithin (c.rest.length + 1) c.next with
    | none => ⟨[], true, c.next⟩
    | some (more, after) =>
        let folded :=
          if first ≠ '\n' then [first]
          else if more.isEmpty then [' ']
          else []
        ⟨folded ++ more, true, after⟩
  else ⟨white, false, c⟩

/-- A scalar and what follows it. After a line end a new key may begin. -/
structure Lexeme where
  text : List Char
  brokeLine : Bool
  after : Cursor
  deriving DecidableEq, Repr

/-- Reads words and the gaps between them, as long as lines are indented far enough. -/
def wordsWithin (fuel : Nat) (inFlow : Bool) (indent : Int) (before : Gap) : Lexeme :=
  let done : Lexeme := ⟨[], before.brokeLine, before.after⟩
  match fuel with
  | 0 => done
  | fuel + 1 =>
      let c := before.after
      let length := wordLength inFlow c.rest
      if c.head = '#' ∨ length = 0 then done
      else
        let word := c.rest.take length
        let next := gap (c.advance length)
        let more :=
          if next.text.isEmpty ∨ next.after.head = '#' ∨
              (¬ inFlow ∧ (next.after.column : Int) < indent) then
            ⟨[], next.brokeLine, next.after⟩
          else wordsWithin fuel inFlow indent next
        { more with text := before.text ++ word ++ more.text }

def lexeme (inFlow : Bool) (indent : Int) (c : Cursor) : Lexeme :=
  wordsWithin (c.rest.length + 1) inFlow indent ⟨[], false, c⟩

end WalCheckpoint.Yaml.Plain
