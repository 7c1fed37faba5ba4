import WalCheckpoint.Yaml.Outline
import WalCheckpoint.Yaml.Tag

namespace WalCheckpoint.Yaml

/-! The nodes of a document. -/

/-- Nodes are numbered by the tokens that are left where they begin. An alias has the number of the
node it stands for. -/
inductive Node where
  | scalar (number : Nat) (tag : Tag) (text : Text.Loose)
  | sequence (number : Nat) (tag : Tag) (items : List Node)
  | mapping (number : Nat) (tag : Tag) (entries : List (Node × Node))
  | alias (number : Nat)
  deriving Inhabited

namespace Node

/-- The tokens that are left and the names that the document gave so far. A collection has its name
before it is complete. -/
structure Reading where
  tokens : List Token
  anchors : List (String × Nat)
  handles : List (String × String)

namespace Reading

def drop (r : Reading) : Reading :=
  { r with tokens := r.tokens.drop 1 }

def head (r : Reading) : Token :=
  r.tokens.head?.getD (.fault .malformed)

def fault (r : Reading) : Fault :=
  match r.head with
  | .fault f => f
  | _ => .malformed

def expect (token : Token) (r : Reading) : Except Fault Reading :=
  if r.head = token then .ok r.drop else .error r.fault

def number (r : Reading) : Nat :=
  r.tokens.length

def anchor? (r : Reading) (name : String) : Option Nat :=
  (r.anchors.find? fun entry => entry.1 == name).map Prod.snd

def withAnchor (name : Option String) (number : Nat) (r : Reading) : Reading :=
  match name with
  | some name => { r with anchors := (name, number) :: r.anchors }
  | none => r

def named (name : String) (r : Reading) : Except Fault (Node × Reading) :=
  match r.anchor? name with
  | some number => .ok (.alias number, r)
  | none => .error .malformed

def tagName (t : TagText) (r : Reading) : Except Fault String :=
  match t.handle with
  | none => .ok t.suffix
  | some handle =>
      match r.handles.find? fun entry => entry.1 == handle with
      | some entry => .ok (entry.2 ++ t.suffix)
      | none => .error .malformed

structure Properties where
  anchor : Option String
  tag : Option String
  deriving DecidableEq, Repr

def properties (r : Reading) : Except Fault (Properties × Reading) := do
  match r.tokens with
  | .anchor name :: .tag t :: rest => do
      let tag ← r.tagName t
      return (⟨some name, some tag⟩, { r with tokens := rest })
  | .anchor name :: rest => return (⟨some name, none⟩, { r with tokens := rest })
  | .tag t :: .anchor name :: rest => do
      let tag ← r.tagName t
      return (⟨some name, some tag⟩, { r with tokens := rest })
  | .tag _ :: .fault f :: _ => throw f
  | .tag t :: rest => do
      let tag ← r.tagName t
      return (⟨none, some tag⟩, { r with tokens := rest })
  | _ => return (⟨none, none⟩, r)

end Reading

def absent (r : Reading) : Node :=
  .scalar r.number .null (.sound "")

def scalarTag (tag : Option String) (text : Text.Loose) (isPlain : Bool) : Tag :=
  match tag with
  | none => if isPlain then .ofLoose text else .text
  | some name => if name = "!" then .ofLoose text else .ofName name

def collectionTag (tag : Option String) (default : Tag) : Tag :=
  match tag with
  | none => default
  | some name => if name = "!" then default else .ofName name

/-- Where a node may stand: whether blocks may begin there, and whether a sequence may do so
without an indentation of its own. -/
structure Place where
  block : Bool
  indentless : Bool
  deriving DecidableEq, Repr

def Place.flow : Place := ⟨false, false⟩

def Place.item : Place := ⟨true, false⟩

def Place.entry : Place := ⟨true, true⟩

def endsItem (token : Token) : Bool :=
  token = .blockEntry || token = .blockEnd

def endsEntryPart (token : Token) : Bool :=
  token = .key || token = .value || token = .blockEnd

def endsFlowValue (closing token : Token) : Bool :=
  token = .flowEntry || token = closing

def endsFlowPart (closing token : Token) : Bool :=
  token = .value || endsFlowValue closing token

mutual
def read (fuel : Nat) (place : Place) (r : Reading) : Except Fault (Node × Reading) :=
  match fuel with
  | 0 => .error r.fault
  | fuel + 1 => do
      match r.head with
      | .reference name => r.drop.named name
      | _ =>
          let number := r.number
          let (properties, r) ← r.properties
          if (properties.anchor.bind r.anchor?).isSome then throw r.fault
          readContent fuel number place properties (r.withAnchor properties.anchor number)

/-- The node itself, after its properties; a node may have nothing but these. -/
def readContent (fuel number : Nat) (place : Place) (properties : Reading.Properties)
    (r : Reading) : Except Fault (Node × Reading) :=
  match fuel with
  | 0 => .error r.fault
  | fuel + 1 => do
      let sequenceTag := collectionTag properties.tag .sequence
      let mappingTag := collectionTag properties.tag .mapping
      match r.head with
      | .scalar text isPlain =>
          return (.scalar number (scalarTag properties.tag text isPlain) text, r.drop)
      | .flowSequenceStart =>
          let (items, r) ← readFlowItems fuel true r.drop
          return (.sequence number sequenceTag items, r)
      | .flowMappingStart =>
          let (entries, r) ← readFlowEntries fuel true r.drop
          return (.mapping number mappingTag entries, r)
      | token =>
          if token = .blockEntry ∧ place.indentless then
            let (items, r) ← readIndentlessItems fuel r
            return (.sequence number sequenceTag items, r)
          else if token = .blockSequenceStart ∧ place.block then
            let (items, r) ← readItems fuel r.drop
            return (.sequence number sequenceTag items, r)
          else if token = .blockMappingStart ∧ place.block then
            let (entries, r) ← readEntries fuel r.drop
            return (.mapping number mappingTag entries, r)
          else if properties.anchor.isSome ∨ properties.tag.isSome then
            return (.scalar number (scalarTag properties.tag (.sound "") true) (.sound ""), r)
          else throw r.fault

/-- A node, unless the place for it ends here. -/
def readUnless (fuel : Nat) (isEnd : Token → Bool) (place : Place) (r : Reading) :
    Except Fault (Node × Reading) :=
  match fuel with
  | 0 => .error r.fault
  | fuel + 1 => if isEnd r.head then .ok (absent r, r) else read fuel place r

def readItems (fuel : Nat) (r : Reading) : Except Fault (List Node × Reading) :=
  match fuel with
  | 0 => .error r.fault
  | fuel + 1 => do
      match r.head with
      | .blockEntry =>
          let (item, r) ← readUnless fuel endsItem .item r.drop
          let (items, r) ← readItems fuel r
          return (item :: items, r)
      | .blockEnd => return ([], r.drop)
      | _ => throw r.fault

def readIndentlessItems (fuel : Nat) (r : Reading) : Except Fault (List Node × Reading) :=
  match fuel with
  | 0 => .error r.fault
  | fuel + 1 => do
      match r.head with
      | .blockEntry =>
          let isEnd (token : Token) : Bool := token = .blockEntry || endsEntryPart token
          let (item, r) ← readUnless fuel isEnd .item r.drop
          let (items, r) ← readIndentlessItems fuel r
          return (item :: items, r)
      | _ => return ([], r)

def readEntries (fuel : Nat) (r : Reading) : Except Fault (List (Node × Node) × Reading) :=
  match fuel with
  | 0 => .error r.fault
  | fuel + 1 => do
      match r.head with
      | .key =>
          let (key, r) ← readUnless fuel endsEntryPart .entry r.drop
          let (value, r) ← readValue fuel endsEntryPart .entry r
          let (entries, r) ← readEntries fuel r
          return ((key, value) :: entries, r)
      | .blockEnd => return ([], r.drop)
      | _ => throw r.fault

def readValue (fuel : Nat) (isEnd : Token → Bool) (place : Place) (r : Reading) :
    Except Fault (Node × Reading) :=
  match fuel with
  | 0 => .error r.fault
  | fuel + 1 =>
      match r.head with
      | .value => readUnless fuel isEnd place r.drop
      | _ => .ok (absent r, r)

/-- The items up to the closing bracket; a comma may stand before it. -/
def readFlowItems (fuel : Nat) (isFirst : Bool) (r : Reading) :
    Except Fault (List Node × Reading) :=
  match fuel with
  | 0 => .error r.fault
  | fuel + 1 => do
      if r.head = .flowSequenceEnd then return ([], r.drop)
      let r ← if isFirst then pure r else r.expect .flowEntry
      match r.head with
      | .flowSequenceEnd => return ([], r.drop)
      | .key =>
          let number := r.number
          let (key, r) ← readUnless fuel (endsFlowPart .flowSequenceEnd) .flow r.drop
          let (value, r) ← readValue fuel (endsFlowValue .flowSequenceEnd) .flow r
          let (items, r) ← readFlowItems fuel false r
          return (.mapping number .mapping [(key, value)] :: items, r)
      | _ =>
          let (item, r) ← read fuel .flow r
          let (items, r) ← readFlowItems fuel false r
          return (item :: items, r)

def readFlowEntries (fuel : Nat) (isFirst : Bool) (r : Reading) :
    Except Fault (List (Node × Node) × Reading) :=
  match fuel with
  | 0 => .error r.fault
  | fuel + 1 => do
      if r.head = .flowMappingEnd then return ([], r.drop)
      let r ← if isFirst then pure r else r.expect .flowEntry
      match r.head with
      | .flowMappingEnd => return ([], r.drop)
      | .key =>
          let (key, r) ← readUnless fuel (endsFlowPart .flowMappingEnd) .flow r.drop
          let (value, r) ← readValue fuel (endsFlowValue .flowMappingEnd) .flow r
          let (entries, r) ← readFlowEntries fuel false r
          return ((key, value) :: entries, r)
      | _ =>
          let (key, r) ← read fuel .flow r
          let value := absent r
          let (entries, r) ← readFlowEntries fuel false r
          return ((key, value) :: entries, r)
end

def defaultHandles : List (String × String) :=
  [("!", "!"), ("!!", Tag.standardStart)]

structure Directives where
  hasVersion : Bool
  handles : List (String × String)
  deriving DecidableEq, Repr

def readDirectives (d : Directives) : List Token → Except Fault (Directives × List Token)
  | .directive (.version major) :: rest =>
      if d.hasVersion ∨ major ≠ 1 then .error .malformed
      else readDirectives { d with hasVersion := true } rest
  | .directive (.tag handle replacement) :: rest =>
      if d.handles.any fun entry => entry.1 == handle then .error .malformed
      else readDirectives { d with handles := d.handles ++ [(handle, replacement)] } rest
  | .directive .other :: rest => readDirectives d rest
  | tokens => .ok (d, tokens)

def beginsDocument : Token → Bool
  | .directive _ => true
  | .documentStart => true
  | .streamEnd => true
  | _ => false

def isDocumentEnd (token : Token) : Bool :=
  token = .documentEnd

/-- A document that is marked as one may be empty. -/
def readMarked (fuel : Nat) (tokens : List Token) : Except Fault (Node × Reading) := do
  let (directives, tokens) ← readDirectives ⟨false, []⟩ tokens
  let r : Reading := ⟨tokens, [], directives.handles ++ defaultHandles⟩
  let r ← r.expect .documentStart
  readUnless fuel (fun token => beginsDocument token || isDocumentEnd token) .item r

/-- What follows a document. Another document is read up to its beginning before it is one too
many. -/
def readEnd (r : Reading) : Except Fault Unit := do
  let r : Reading := { r with tokens := r.tokens.dropWhile isDocumentEnd }
  if r.head = .streamEnd then return ()
  let (_, tokens) ← readDirectives ⟨false, []⟩ r.tokens
  let _ ← Reading.expect .documentStart { r with tokens := tokens }
  throw .malformed

/-- The node of the only document, if there is one. Between two tokens reading goes at most
three steps deeper. -/
def ofTokens? (tokens : List Token) : Except Fault (Option Node) := do
  let fuel := 3 * tokens.length + 3
  if tokens = [.streamEnd] then return none
  let (node, r) ←
    if tokens.head?.any beginsDocument then readMarked fuel tokens
    else read fuel .item ⟨tokens, [], defaultHandles⟩
  readEnd r
  return some node

end Node

end WalCheckpoint.Yaml
