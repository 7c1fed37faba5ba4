import WalCheckpoint.Text.Lines
import WalCheckpoint.Yaml.Node

namespace WalCheckpoint.Yaml

/-! The document that nodes make up. A collection is made empty where its node is met, and filled
when those that were made before it are. -/

abbrev Scalar := { v : Value // v.isScalar = true }

/-- What a node stands for: a value, or the collection with a number. -/
inductive Item where
  | value (v : Value)
  | collection (number : Nat)

inductive Collection where
  | list (items : List Item)
  | pairs (items : List (Item × Item))
  | set (members : List Scalar)
  | mapping (entries : List (Scalar × Item))

abbrev Node.Entry := Node × Node

/-- The nodes by their numbers, and what became of them: the entries of mappings to which others
were added, equals signs that are keys like any other, and the values of mappings that stand for
scalars. Then the collections that are still empty, all that were made, and those that are filled. -/
structure Builder where
  nodes : List (Nat × Node)
  merged : List (Nat × List Node.Entry)
  plain : List Nat
  values : List (Nat × Value)
  empty : List Node
  made : List Nat
  filled : List (Nat × Collection)

namespace Node

def number : Node → Nat
  | .scalar number _ _ => number
  | .sequence number _ _ => number
  | .mapping number _ _ => number
  | .alias number => number

mutual
def numbered : Node → List (Nat × Node)
  | .scalar number tag text => [(number, .scalar number tag text)]
  | .sequence number tag items => (number, .sequence number tag items) :: numberedItems items
  | .mapping number tag entries =>
      (number, .mapping number tag entries) :: numberedEntries entries
  | .alias _ => []
termination_by structural node => node

def numberedItems : List Node → List (Nat × Node)
  | [] => []
  | item :: rest => numbered item ++ numberedItems rest
termination_by structural items => items

def numberedEntries : List (Node × Node) → List (Nat × Node)
  | [] => []
  | (key, value) :: rest => numbered key ++ numbered value ++ numberedEntries rest
termination_by structural entries => entries
end

end Node

def scalarValue (tag : Tag) (text : Text.Loose) : Except Fault Value :=
  match tag, text with
  | .null, _ => .ok .null
  | .text, text => .ok (.ofLoose text)
  | .bool, .sound text => (boolWord? text).elim (.error .noSwitchWord) fun b => .ok (.bool b)
  | .bool, .broken _ => .error .noSwitchWord
  | .int, .sound text => (Number.readInt text.toList).map .int
  | .float, .sound text => (Number.readFloat text.toList).map .float
  | .int, .broken _ | .float, .broken _ => .error .badNumber
  | .timestamp, .sound text => Timestamp.read text.toList
  | .timestamp, .broken _ => .error .noTimestamp
  | .binary, .sound text => Binary.read text.toList
  | _, _ => .error .malformed

namespace Builder

open Node (Entry)

def start (root : Node) : Builder :=
  ⟨root.numbered, [], [], [], [], [], []⟩

/-- The node itself, where an alias stands for it. -/
def resolve (b : Builder) : Node → Node
  | .alias number => (b.nodes.lookup number).getD (.alias number)
  | node => node

def tag (b : Builder) (node : Node) : Tag :=
  let written :=
    match b.resolve node with
    | .scalar _ tag _ => tag
    | .sequence _ tag _ => tag
    | .mapping _ tag _ => tag
    | .alias _ => .reserved
  if written = .value ∧ node.number ∈ b.plain then .text else written

def entries (b : Builder) (number : Nat) : List Entry :=
  match b.merged.lookup number, b.nodes.lookup number with
  | some entries, _ => entries
  | none, some (.mapping _ _ entries) => entries
  | none, _ => []

def setEntries (number : Nat) (entries : List Entry) (b : Builder) : Builder :=
  { b with merged := (number, entries) :: b.merged }

/-! Other mappings are merged into a mapping before it is filled. Their entries come before its own,
and their own merging comes first. -/

def needsMerging (b : Builder) (entry : Entry) : Bool :=
  b.tag entry.1 = .merge || b.tag entry.1 = .value

def prepend (number : Nat) (entries : List Entry) (b : Builder) : Builder :=
  if entries.isEmpty then b else b.setEntries number (entries ++ b.entries number)

mutual
/-- Goes on with the entry at an index. What was found for merging so far comes in at the end. -/
def mergeFrom (fuel number index : Nat) (found : List Entry) (b : Builder) :
    Except Fault Builder :=
  match fuel with
  | 0 => .ok (b.prepend number found)
  | fuel + 1 => do
      match (b.entries number)[index]? with
      | none => return b.prepend number found
      | some (key, value) =>
          match b.tag key with
          | .merge =>
              let rest := (b.entries number).eraseIdx index
              let (more, b) ← mergedEntries fuel (b.resolve value) (b.setEntries number rest)
              mergeFrom fuel number index (found ++ more) b
          | .value =>
              mergeFrom fuel number (index + 1) found { b with plain := key.number :: b.plain }
          | _ => mergeFrom fuel number (index + 1) found b

/-- The entries of a mapping, or of several, of which the first counts most. -/
def mergedEntries (fuel : Nat) (node : Node) (b : Builder) :
    Except Fault (List Entry × Builder) :=
  match fuel with
  | 0 => .ok ([], b)
  | fuel + 1 => do
      match node with
      | .mapping number _ _ =>
          let b ← mergeFrom fuel number 0 [] b
          return (b.entries number, b)
      | .sequence _ _ items => mergedItems fuel items b
      | _ => throw .malformed

def mergedItems (fuel : Nat) (items : List Node) (b : Builder) :
    Except Fault (List Entry × Builder) :=
  match fuel, items with
  | 0, _ => .ok ([], b)
  | _, [] => .ok ([], b)
  | fuel + 1, item :: rest => do
      match b.resolve item with
      | .mapping number _ _ =>
          let b ← mergeFrom fuel number 0 [] b
          let own := b.entries number
          let (more, b) ← mergedItems fuel rest b
          return (more ++ own, b)
      | _ => throw .malformed
end

/-- A mapping that merges itself is merged as far as it has come, so that there is an end to it. -/
def merge (number : Nat) (b : Builder) : Except Fault Builder :=
  if (b.entries number).any b.needsMerging then
    mergeFrom ((b.nodes.length + 2) * (b.nodes.length + 2)) number 0 [] b
  else .ok b

/-- The text of a node where a scalar is to stand. A mapping has the text of its value under an
equals sign. -/
def text (fuel : Nat) (b : Builder) (node : Node) : Except Fault Text.Loose :=
  match fuel with
  | 0 => .error .tooDeep
  | fuel + 1 =>
      match b.resolve node with
      | .scalar _ _ text => .ok text
      | .mapping number _ _ =>
          match (b.entries number).find? fun entry => b.tag entry.1 = .value with
          | some entry => text fuel b entry.2
          | none => .error .malformed
      | _ => .error .malformed

/-- The value of a mapping that stands for a scalar. It is made once, and an instant is looked for
in the text of a scalar only. -/
def valueOfMapping (number : Nat) (tag : Tag) (b : Builder) : Except Fault (Value × Builder) :=
  match b.values.lookup number with
  | some v => .ok (v, b)
  | none => do
      let text ← b.text (b.nodes.length + 1) (.alias number)
      let v ← if tag = .timestamp then throw .notText else scalarValue tag text
      return (v, { b with values := (number, v) :: b.values })

def make (node : Node) (b : Builder) : Except Fault (Item × Builder) :=
  let number := node.number
  let tag := b.tag node
  if tag.isCollection then
    if number ∈ b.made then .ok (.collection number, b)
    else
      .ok (.collection number,
        { b with made := number :: b.made, empty := b.empty ++ [b.resolve node] })
  else if tag.isScalar then
    match b.resolve node with
    | .scalar _ _ text => (scalarValue tag text).map fun v => (.value v, b)
    | .mapping _ _ _ => (b.valueOfMapping number tag).map fun read => (.value read.1, read.2)
    | _ => .error .malformed
  else .error .malformed

def makeItems (b : Builder) : List Node → Except Fault (List Item × Builder)
  | [] => .ok ([], b)
  | node :: rest => do
      let (item, b) ← b.make node
      let (items, b) ← makeItems b rest
      return (item :: items, b)

/-- Each pair is a mapping with one entry, whose key may be any value. -/
def makePairs (b : Builder) : List Node → Except Fault (List (Item × Item) × Builder)
  | [] => .ok ([], b)
  | node :: rest =>
      match b.resolve node with
      | .mapping number _ _ =>
          match b.entries number with
          | [(key, value)] => do
              let (key, b) ← b.make key
              let (value, b) ← b.make value
              let (pairs, b) ← makePairs b rest
              return ((key, value) :: pairs, b)
          | _ => .error .malformed
      | _ => .error .malformed

def scalar : Item → Except Fault Scalar
  | .value v => if h : v.isScalar = true then .ok ⟨v, h⟩ else .error .malformed
  | .collection _ => .error .malformed

def makeEntries (b : Builder) : List Entry → Except Fault (List (Scalar × Item) × Builder)
  | [] => .ok ([], b)
  | (key, value) :: rest => do
      let (key, b) ← b.make key
      let key ← scalar key
      let (value, b) ← b.make value
      let (entries, b) ← makeEntries b rest
      return ((key, value) :: entries, b)

def contents (node : Node) (b : Builder) : Except Fault (Collection × Builder) :=
  match b.tag node, node with
  | .sequence, .sequence _ _ items => (b.makeItems items).map fun read => (.list read.1, read.2)
  | .pairs, .sequence _ _ items => (b.makePairs items).map fun read => (.pairs read.1, read.2)
  | .mapping, .mapping number _ _ => do
      let b ← b.merge number
      let (entries, b) ← b.makeEntries (b.entries number)
      return (.mapping entries, b)
  | .set, .mapping number _ _ => do
      let b ← b.merge number
      let (entries, b) ← b.makeEntries (b.entries number)
      return (.set (entries.map Prod.fst), b)
  | _, _ => .error .malformed

/-- Fills collections in the order in which they were made. -/
def fill (fuel : Nat) (b : Builder) : Except Fault Builder :=
  match fuel, b.empty with
  | 0, _ => .ok b
  | _, [] => .ok b
  | fuel + 1, node :: rest => do
      let (collection, b) ← contents node { b with empty := rest }
      fill fuel { b with filled := (node.number, collection) :: b.filled }

/-! What collections hold, as far as they do not hold themselves. -/

def keyed (entries : List (Scalar × α)) : Keyed α :=
  entries.foldl (fun m entry => Keyed.insert entry.1.val entry.2 m) []

def members (scalars : List Scalar) : List Value :=
  (keyed (scalars.map fun scalar => (scalar, ()))).map Prod.fst

def document (b : Builder) (fuel : Nat) (within : List Nat) : Item → Document
  | .value v => .alone v
  | .collection number =>
      match fuel with
      | 0 => .alone .null
      | fuel + 1 =>
          let held := b.document fuel (number :: within)
          match b.filled.lookup number with
          | some (.mapping entries) =>
              if number ∈ within then .enclosing (some number)
              else .shared number (keyed (entries.map fun entry => (entry.1, held entry.2)))
          | some (.list items) =>
              if number ∈ within then .enclosing none else .list (items.map held)
          | some (.pairs items) =>
              if number ∈ within then .enclosing none
              else .list (items.map fun item => .pair (held item.1) (held item.2))
          | some (.set scalars) => .alone (.set (members scalars))
          | none => .alone .null

/-- The document as a whole. What a mapping holds is looked at on its own, so that the mapping may
stand there once more. -/
def whole (b : Builder) (root : Item) : Document :=
  let fuel := b.nodes.length + 1
  match root with
  | .value v => .alone v
  | .collection number =>
      match b.filled.lookup number with
      | some (.mapping entries) =>
          .shared number (keyed (entries.map fun entry => (entry.1, b.document fuel [] entry.2)))
      | _ => b.document fuel [] root

end Builder

namespace Node

mutual
def hasAlias : Node → Bool
  | .scalar _ _ _ => false
  | .sequence _ _ items => haveAlias items
  | .mapping _ _ entries => entriesHaveAlias entries
  | .alias _ => true
termination_by structural node => node

def haveAlias : List Node → Bool
  | [] => false
  | item :: rest => hasAlias item || haveAlias rest
termination_by structural items => items

def entriesHaveAlias : List (Node × Node) → Bool
  | [] => false
  | (key, value) :: rest => hasAlias key || hasAlias value || entriesHaveAlias rest
termination_by structural entries => entries
end

/-- Without an alias everything stands at one place. -/
def document (root : Node) : Except Fault Document := do
  let (item, b) ← (Builder.start root).make root
  let b ← b.fill (b.nodes.length + 1)
  let document := b.whole item
  return if root.hasAlias then document else .alone document.value

end Node

/-- The document of a text; a text without a document is null. -/
def readText (text : String) : Except Fault Document := do
  match ← Node.ofTokens? (Token.ofText text) with
  | none => return .alone .null
  | some root => root.document

def read (bytes : ByteArray) : Except Fault Document :=
  match Text.decode? bytes with
  | none => .error .undecodable
  | some text => readText text

end WalCheckpoint.Yaml
