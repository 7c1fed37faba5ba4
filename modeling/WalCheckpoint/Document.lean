import WalCheckpoint.Value.Overlay

namespace WalCheckpoint

/-! Documents in which one mapping stands at several places. What is laid over it at one of them
shows at all. -/

/-- A mapping that may stand at several places has a number, by which it is known at each. A value
stands at one place, with all that is in it. Where a mapping or a list is met within itself, it is
not gone into again. -/
inductive Document where
  | alone (value : Value)
  | list (items : List Document)
  | pair (first second : Document)
  | shared (number : Nat) (entries : List (Value × Document))
  | enclosing (number : Option Nat)
  deriving Inhabited

namespace Document

mutual
def value : Document → Value
  | .alone value => value
  | .list items => .list (itemValues items)
  | .pair first second => .pair (value first) (value second)
  | .shared _ entries => .map (entryValues entries)
  | .enclosing number => .enclosing number.isNone
termination_by structural document => document

def itemValues : List Document → List Value
  | [] => []
  | item :: rest => value item :: itemValues rest
termination_by structural items => items

def entryValues : List (Value × Document) → Mapping
  | [] => []
  | (key, held) :: rest => (key, value held) :: entryValues rest
termination_by structural entries => entries
end

theorem entryValues_eq_map (entries : Keyed Document) :
    entryValues entries = entries.map fun entry => (entry.1, entry.2.value) := by
  induction entries with
  | nil => rfl
  | cons entry rest induction => rw [entryValues, induction, List.map_cons]

def alone? : Document → Option Value
  | .alone value => some value
  | _ => none

theorem alone?_eq_some_iff {document : Document} {value : Value} :
    document.alone? = some value ↔ document = .alone value := by
  cases document <;> simp [alone?]

/-- The entries of a mapping, each of which stands at one place. -/
def entriesAlone (entries : Mapping) : Keyed Document :=
  entries.map fun entry => (entry.1, .alone entry.2)

def entries? : Document → Option (Keyed Document)
  | .alone (.map entries) => some (entriesAlone entries)
  | .shared _ entries => some entries
  | _ => none

mutual
/-- The entries of the mapping with a number. -/
def find? (number : Nat) : Document → Option (Keyed Document)
  | .alone _ => none
  | .list items => findItems? number items
  | .pair first second => (find? number first).or (find? number second)
  | .shared number' entries =>
      if number' = number then some entries else findEntries? number entries
  | .enclosing _ => none
termination_by structural document => document

def findItems? (number : Nat) : List Document → Option (Keyed Document)
  | [] => none
  | item :: rest => (find? number item).or (findItems? number rest)
termination_by structural items => items

def findEntries? (number : Nat) : List (Value × Document) → Option (Keyed Document)
  | [] => none
  | (_, held) :: rest => (find? number held).or (findEntries? number rest)
termination_by structural entries => entries
end

mutual
/-- Puts a value under a key of the mapping with a number, wherever it stands. -/
def put (number : Nat) (key laid : Value) : Document → Document
  | .alone value => .alone value
  | .list items => .list (putItems number key laid items)
  | .pair first second => .pair (put number key laid first) (put number key laid second)
  | .shared number' entries =>
      let entries := putEntries number key laid entries
      .shared number' (if number' = number then Keyed.insert key (.alone laid) entries else entries)
  | .enclosing number' => .enclosing number'
termination_by structural document => document

def putItems (number : Nat) (key laid : Value) : List Document → List Document
  | [] => []
  | item :: rest => put number key laid item :: putItems number key laid rest
termination_by structural items => items

def putEntries (number : Nat) (key laid : Value) :
    List (Value × Document) → List (Value × Document)
  | [] => []
  | (key', held) :: rest => (key', put number key laid held) :: putEntries number key laid rest
termination_by structural entries => entries
end

/-! What is laid over a mapping goes to a place in it: to the mapping itself, or to one with a
number that is among its entries. -/

def entriesAt (place : Option Nat) (whole : Keyed Document) : Keyed Document :=
  match place with
  | none => whole
  | some number => (findEntries? number whole).getD []

def putAt (place : Option Nat) (key laid : Value) (whole : Keyed Document) : Keyed Document :=
  match place with
  | none => Keyed.insert key (.alone laid) whole
  | some number => putEntries number key laid whole

mutual
def layValue (place : Option Nat) (key : Value) : Value → Keyed Document → Keyed Document
  | .map upper, whole =>
      match Keyed.get? (entriesAt place whole) key with
      | some (.shared number _) => lay (some number) upper whole
      | some (.enclosing (some number)) => lay (some number) upper whole
      | lower =>
          putAt place key (Mapping.overlayValue (lower.map value) (.map upper)) whole
  | upper, whole => putAt place key upper whole
termination_by structural upper => upper

/-- Lays the entries of one mapping over those of another, in place. -/
def lay (place : Option Nat) : List (Value × Value) → Keyed Document → Keyed Document
  | [], whole => whole
  | (key, upper) :: rest, whole => lay place rest (layValue place key upper whole)
termination_by structural upper => upper
end

end Document

end WalCheckpoint
