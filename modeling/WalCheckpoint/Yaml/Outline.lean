import WalCheckpoint.Yaml.Scalar.Block
import WalCheckpoint.Yaml.Scalar.Plain
import WalCheckpoint.Yaml.Scalar.Quoted
import WalCheckpoint.Yaml.Token

namespace WalCheckpoint.Yaml

/-! The tokens of a text. A key shows only at the colon after it: until then it is a candidate,
and the colon puts the mark of a key in front of it. -/

/-- What may turn out to be a key: the number of its first token and where it stands. One that
sets the indentation has to turn out to be one. -/
structure Candidate where
  token : Nat
  isRequired : Bool
  index : Nat
  line : Nat
  column : Nat
  deriving DecidableEq, Repr

/-- The tokens read so far, latest first, with the brackets and indentations that are open. -/
structure Outline where
  cursor : Cursor
  depth : Nat
  indent : Int
  outer : List Int
  allowsKey : Bool
  candidates : List (Nat × Candidate)
  tokens : List Token
  isComplete : Bool
  deriving Repr

namespace Outline

def start (text : String) : Outline :=
  { cursor := .start text
    depth := 0
    indent := -1
    outer := []
    allowsKey := true
    candidates := []
    tokens := []
    isComplete := false }

def inFlow (o : Outline) : Bool := o.depth != 0

def push (token : Token) (o : Outline) : Outline :=
  { o with tokens := token :: o.tokens }

def moveTo (c : Cursor) (o : Outline) : Outline :=
  { o with cursor := c }

def move (n : Nat) (o : Outline) : Outline :=
  { o with cursor := o.cursor.advance n }

def allow (allowsKey : Bool) (o : Outline) : Outline :=
  { o with allowsKey := allowsKey }

def insertAt (token : Nat) (inserted : List Token) (o : Outline) : Outline :=
  let later := o.tokens.take (o.tokens.length - token)
  let earlier := o.tokens.drop (o.tokens.length - token)
  { o with tokens := later ++ inserted.reverse ++ earlier }

/-- Between tokens there may be spaces, comments and line breaks; after a line break a key may
begin, except among brackets. -/
def skipGapWithin (fuel : Nat) (o : Outline) : Outline :=
  let c := o.cursor.skipSpaces.skipComment
  match fuel with
  | 0 => o.moveTo c
  | fuel + 1 =>
      if isBreak c.head then
        skipGapWithin fuel ((o.moveTo c.next).allow (o.allowsKey || !o.inFlow))
      else o.moveTo c

def skipGap (o : Outline) : Outline :=
  let o :=
    if o.cursor.index = 0 ∧ o.cursor.head = byteOrderMark then o.move 1 else o
  skipGapWithin o.cursor.rest.length o

def keyLimit : Nat := 1024

def isStale (c : Cursor) (candidate : Candidate) : Bool :=
  candidate.line != c.line || keyLimit < c.index - candidate.index

/-- A key is on one line with its colon and not too far from it. -/
def dropStale (o : Outline) : Except Fault Outline :=
  let stale := o.candidates.filter fun entry => isStale o.cursor entry.2
  if stale.any fun entry => entry.2.isRequired then .error .malformed
  else .ok { o with candidates :=
    o.candidates.filter fun entry => !isStale o.cursor entry.2 }

def candidate? (o : Outline) : Option Candidate :=
  (o.candidates.find? fun entry => entry.1 == o.depth).map Prod.snd

def withoutCandidate (o : Outline) : Outline :=
  { o with candidates := o.candidates.filter fun entry => entry.1 != o.depth }

def dropCandidate (o : Outline) : Except Fault Outline :=
  match o.candidate? with
  | some candidate =>
      if candidate.isRequired then .error .malformed else .ok o.withoutCandidate
  | none => .ok o

def saveCandidate (o : Outline) : Except Fault Outline :=
  if o.allowsKey then do
    let o ← o.dropCandidate
    let candidate : Candidate :=
      { token := o.tokens.length
        isRequired := !o.inFlow && o.indent == o.cursor.column
        index := o.cursor.index
        line := o.cursor.line
        column := o.cursor.column }
    return { o with candidates := (o.depth, candidate) :: o.candidates }
  else .ok o

/-- Closes the blocks that are indented further than a column. -/
def unwindTo (column : Int) (indent : Int) (outer : List Int) (tokens : List Token) :
    Int × List Int × List Token :=
  if column < indent then
    match outer with
    | [] => (-1, [], .blockEnd :: tokens)
    | indent :: outer => unwindTo column indent outer (.blockEnd :: tokens)
  else (indent, outer, tokens)

def unwind (column : Int) (o : Outline) : Outline :=
  if o.inFlow then o
  else
    let (indent, outer, tokens) := unwindTo column o.indent o.outer o.tokens
    { o with indent := indent, outer := outer, tokens := tokens }

def opensBlock (column : Nat) (o : Outline) : Bool :=
  !o.inFlow && o.indent < column

def openBlock (column : Nat) (o : Outline) : Outline :=
  { o with indent := column, outer := o.indent :: o.outer }

/-- Opens a block where the indentation grows. -/
def openBlockWith (token : Token) (o : Outline) : Outline :=
  if o.opensBlock o.cursor.column then (o.openBlock o.cursor.column).push token else o

def readEnd (o : Outline) : Except Fault Outline := do
  let o ← (o.unwind (-1)).dropCandidate
  return { (o.allow false).push .streamEnd with candidates := [], isComplete := true }

def readDirective (o : Outline) : Except Fault Outline := do
  let o ← (o.unwind (-1)).dropCandidate
  let (directive, c) ← Token.directiveText o.cursor.next
  return ((o.allow false).push (.directive directive)).moveTo c

def readMarker (token : Token) (o : Outline) : Except Fault Outline := do
  let o ← (o.unwind (-1)).dropCandidate
  return ((o.allow false).push token).move 3

def readFlowStart (token : Token) (o : Outline) : Except Fault Outline := do
  let o ← o.saveCandidate
  return { ((o.allow true).push token).move 1 with depth := o.depth + 1 }

def readFlowEnd (token : Token) (o : Outline) : Except Fault Outline := do
  let o ← o.dropCandidate
  return { ((o.allow false).push token).move 1 with depth := o.depth - 1 }

def readFlowEntry (o : Outline) : Except Fault Outline := do
  let o ← o.dropCandidate
  return ((o.allow true).push .flowEntry).move 1

def readBlockEntry (o : Outline) : Except Fault Outline := do
  if !o.inFlow && !o.allowsKey then throw .malformed
  let o ← (o.openBlockWith .blockSequenceStart).dropCandidate
  return ((o.allow true).push .blockEntry).move 1

def readKey (o : Outline) : Except Fault Outline := do
  if !o.inFlow && !o.allowsKey then throw .malformed
  let o ← (o.openBlockWith .blockMappingStart).dropCandidate
  return ((o.allow !o.inFlow).push .key).move 1

/-- The colon of a candidate makes it a key; any other follows a key marked as one. -/
def readValue (o : Outline) : Except Fault Outline := do
  match o.candidate? with
  | some candidate =>
      let o := o.withoutCandidate
      let o :=
        if o.opensBlock candidate.column then
          (o.openBlock candidate.column).insertAt candidate.token [.blockMappingStart, .key]
        else o.insertAt candidate.token [.key]
      return ((o.allow false).push .value).move 1
  | none =>
      if !o.inFlow && !o.allowsKey then throw .malformed
      let o ← (o.openBlockWith .blockMappingStart).dropCandidate
      return ((o.allow !o.inFlow).push .value).move 1

def readAtom (read : Cursor → Except Fault (Token × Cursor)) (o : Outline) :
    Except Fault Outline := do
  let o ← o.saveCandidate
  let (token, c) ← read o.cursor
  return ((o.allow false).push token).moveTo c

def readAlias (c : Cursor) : Except Fault (Token × Cursor) :=
  (Token.anchorName c.next).map fun read => (.reference read.1, read.2)

def readAnchor (c : Cursor) : Except Fault (Token × Cursor) :=
  (Token.anchorName c.next).map fun read => (.anchor read.1, read.2)

def readTag (c : Cursor) : Except Fault (Token × Cursor) :=
  (Token.tagText c).map fun read => (.tag read.1, read.2)

def readQuoted (style : Quoted.Style) (c : Cursor) : Except Fault (Token × Cursor) :=
  (Quoted.content style c.next).map fun read => (.scalar read.1 false, read.2)

def readBlockScalar (style : Block.Style) (o : Outline) : Except Fault Outline := do
  let o ← o.dropCandidate
  let (content, c) ← Block.content style o.indent o.cursor.next
  return ((o.allow true).push (.scalar (.sound (String.ofList content)) false)).moveTo c

def readPlain (o : Outline) : Except Fault Outline := do
  let o ← o.saveCandidate
  let read := Plain.lexeme o.inFlow (o.indent + 1) o.cursor
  return ((o.allow read.brokeLine).push (.scalar (.sound (String.ofList read.text)) true)).moveTo
    read.after

def atIndicator (o : Outline) : Bool :=
  endsIndicator (o.cursor.peek 1)

def readToken (o : Outline) : Except Fault Outline :=
  let c := o.cursor
  let x := c.head
  if c.rest.isEmpty then o.readEnd
  else if x = '%' ∧ c.column = 0 then o.readDirective
  else if c.column = 0 ∧ c.atMarker '-' then o.readMarker .documentStart
  else if c.column = 0 ∧ c.atMarker '.' then o.readMarker .documentEnd
  else if x = '[' then o.readFlowStart .flowSequenceStart
  else if x = '\x7b' then o.readFlowStart .flowMappingStart
  else if x = ']' then o.readFlowEnd .flowSequenceEnd
  else if x = '\x7d' then o.readFlowEnd .flowMappingEnd
  else if x = ',' then o.readFlowEntry
  else if x = '-' ∧ o.atIndicator then o.readBlockEntry
  else if x = '?' ∧ (o.inFlow ∨ o.atIndicator) then o.readKey
  else if x = ':' ∧ (o.inFlow ∨ o.atIndicator) then o.readValue
  else if x = '*' then o.readAtom readAlias
  else if x = '&' then o.readAtom readAnchor
  else if x = '!' then o.readAtom readTag
  else if x = '|' ∧ ¬ o.inFlow then o.readBlockScalar .literal
  else if x = '>' ∧ ¬ o.inFlow then o.readBlockScalar .folded
  else if x = '\'' then o.readAtom (readQuoted .single)
  else if x = '"' then o.readAtom (readQuoted .double)
  else if Plain.startsAt o.inFlow c then o.readPlain
  else .error .malformed

def next (o : Outline) : Except Fault Outline := do
  let o ← o.skipGap.dropStale
  (o.unwind o.cursor.column).readToken

/-- The tokens before the first that may still turn out to be a key. Nobody gets to see that one
before the text has been read further. -/
def settled (o : Outline) : List Token :=
  let undecided := o.candidates.filter fun entry =>
    entry.2.isRequired || !isStale o.cursor entry.2
  let count := undecided.foldl (fun count entry => min count entry.2.token) o.tokens.length
  o.tokens.drop (o.tokens.length - count)

def tokensWithin (fuel : Nat) (o : Outline) : List Token :=
  match fuel with
  | 0 => o.tokens.reverse
  | fuel + 1 =>
      if o.isComplete then o.tokens.reverse
      else
        match o.next with
        | .ok o => tokensWithin fuel o
        | .error f => (.fault f :: o.settled).reverse

end Outline

/-- The tokens of a text whose line ends are newlines. Each but the last uses up a
character. -/
def Token.ofText (text : String) : List Token :=
  if text.toList.all isPrintable then
    Outline.tokensWithin (text.length + 2) (.start text)
  else [.fault .malformed]

end WalCheckpoint.Yaml
