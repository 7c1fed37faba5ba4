import WalCheckpoint.Binary64
import WalCheckpoint.Text.Broken
import WalCheckpoint.Time.DateTime

namespace WalCheckpoint

open Time

/-! Values of stored offsets, configuration files and log fields. -/

/-- The members of a set are in the order in which it shows them. -/
inductive Value where
  | null
  | bool (b : Bool)
  | int (n : Int)
  | float (x : Binary64)
  | string (s : String)
  | broken (text : Text.Broken)
  | bytes (bs : List UInt8)
  | list (items : List Value)
  | pair (first second : Value)
  | set (members : List Value)
  | map (entries : List (Value × Value))
  | date (d : Date)
  | dateTime (t : DateTime)
  | enclosing (isList : Bool)
  deriving Inhabited

abbrev Keyed (α : Type) := List (Value × α)

abbrev Mapping := Keyed Value

namespace Value

def ofLoose : Text.Loose → Value
  | .sound s => .string s
  | .broken text => .broken text

mutual
def beq : Value → Value → Bool
  | .null, .null => true
  | .bool b, .bool b' => b == b'
  | .int n, .int n' => n == n'
  | .float x, .float x' => x == x'
  | .string s, .string s' => s == s'
  | .broken text, .broken text' => text == text'
  | .bytes bs, .bytes bs' => bs == bs'
  | .list items, .list items' => beqItems items items'
  | .pair x y, .pair x' y' => beq x x' && beq y y'
  | .set members, .set members' => beqItems members members'
  | .map entries, .map entries' => beqEntries entries entries'
  | .date d, .date d' => d == d'
  | .dateTime t, .dateTime t' => t == t'
  | .enclosing b, .enclosing b' => b == b'
  | _, _ => false
termination_by structural value => value

def beqItems : List Value → List Value → Bool
  | [], [] => true
  | x :: rest, y :: rest' => beq x y && beqItems rest rest'
  | _, _ => false
termination_by structural items => items

def beqEntries : List (Value × Value) → List (Value × Value) → Bool
  | [], [] => true
  | (k, v) :: rest, (k', v') :: rest' => beq k k' && beq v v' && beqEntries rest rest'
  | _, _ => false
termination_by structural entries => entries
end

mutual
theorem beq_iff : (x y : Value) → (beq x y = true ↔ x = y)
  | .null, y => by cases y <;> simp [beq]
  | .bool _, y => by cases y <;> simp [beq]
  | .int _, y => by cases y <;> simp [beq]
  | .float _, y => by cases y <;> simp [beq]
  | .string _, y => by cases y <;> simp [beq]
  | .broken _, y => by cases y <;> simp [beq, Subtype.ext_iff]
  | .bytes _, y => by cases y <;> simp [beq]
  | .list items, y => by
      cases y <;> simp [beq, beqItems_iff items]
  | .pair first second, y => by
      cases y <;> simp [beq, beq_iff first, beq_iff second]
  | .set members, y => by
      cases y <;> simp [beq, beqItems_iff members]
  | .map entries, y => by
      cases y <;> simp [beq, beqEntries_iff entries]
  | .date _, y => by cases y <;> simp [beq]
  | .dateTime _, y => by cases y <;> simp [beq]
  | .enclosing _, y => by cases y <;> simp [beq]

theorem beqItems_iff : (xs ys : List Value) → (beqItems xs ys = true ↔ xs = ys)
  | [], ys => by cases ys <;> simp [beqItems]
  | x :: rest, ys => by
      cases ys with
      | nil => simp [beqItems]
      | cons y rest' => simp [beqItems, beq_iff x, beqItems_iff rest]

theorem beqEntries_iff : (xs ys : List (Value × Value)) →
    (beqEntries xs ys = true ↔ xs = ys)
  | [], ys => by cases ys <;> simp [beqEntries]
  | (k, v) :: rest, ys => by
      cases ys with
      | nil => simp [beqEntries]
      | cons y rest' =>
          obtain ⟨k', v'⟩ := y
          simp [beqEntries, beq_iff k, beq_iff v, beqEntries_iff rest]
end

instance : DecidableEq Value := fun x y =>
  decidable_of_iff (beq x y = true) (beq_iff x y)

/-- Truth values count as the numbers one and zero. -/
inductive Number where
  | int (n : Int)
  | float (x : Binary64)

def number? : Value → Option Number
  | .bool b => some (.int (if b then 1 else 0))
  | .int n => some (.int n)
  | .float x => some (.float x)
  | _ => none

def Number.compare? : Number → Number → Option Ordering
  | .int n, .int n' => some (compare n n')
  | .int n, .float x => (x.compareInt? n).map Ordering.swap
  | .float x, .int n => x.compareInt? n
  | .float x, .float x' => x.compare? x'

/-- Instants with offsets are the same where they are the same moment; instants without
are the same where date and clock are. -/
def sameInstant (t t' : DateTime) : Bool :=
  t.offset.isSome == t'.offset.isSome && t.toMicros == t'.toMicros

/-- Whether two values are one key of a mapping: equal numbers are one key however they
are written, and a float that is no number is one key with itself. -/
def sameKey : Value → Value → Bool
  | .null, .null => true
  | .string s, .string s' => s == s'
  | .broken text, .broken text' => text == text'
  | .bytes bs, .bytes bs' => bs == bs'
  | .date d, .date d' => d == d'
  | .dateTime t, .dateTime t' => sameInstant t t'
  | .float x, .float x' => x == x' || x.compare? x' == some .eq
  | x, y =>
      match x.number?, y.number? with
      | some n, some n' => n.compare? n' == some .eq
      | _, _ => false

@[simp] theorem sameKey_string (s s' : String) :
    sameKey (.string s) (.string s') = (s == s') := rfl

def isTruthy : Value → Bool
  | .null => false
  | .bool b => b
  | .int n => n != 0
  | .float x => x.compareInt? 0 != some .eq
  | .string s => s != ""
  | .broken _ => true
  | .bytes bs => !bs.isEmpty
  | .list items => !items.isEmpty
  | .pair _ _ => true
  | .set members => !members.isEmpty
  | .map entries => !entries.isEmpty
  | .date _ => true
  | .dateTime _ => true
  | .enclosing _ => true

/-- Values without parts, which can be keys. -/
def isScalar : Value → Bool
  | .list _ | .pair _ _ | .set _ | .map _ | .enclosing _ => false
  | _ => true

end Value

namespace Keyed

def get? (m : Keyed α) (key : Value) : Option α :=
  (m.find? fun entry => entry.1.sameKey key).map Prod.snd

/-- A key that is there keeps its place and its spelling. -/
def insert (key : Value) (value : α) : Keyed α → Keyed α
  | [] => [(key, value)]
  | (key', value') :: rest =>
      if key'.sameKey key then (key', value) :: rest
      else (key', value') :: insert key value rest

variable {m : Keyed α} {key : Value} {value : α}

/-- What holds of all keys and of one more holds of all keys once that one is put in. -/
theorem forall_key_insert {P : Value → Prop} (keys : ∀ entry ∈ m, P entry.1) (more : P key) :
    ∀ entry ∈ insert key value m, P entry.1 := by
  induction m with
  | nil => exact List.forall_mem_singleton.mpr more
  | cons entry rest induction =>
      obtain ⟨here, later⟩ := List.forall_mem_cons.mp keys
      rw [insert]
      split
      · exact List.forall_mem_cons.mpr ⟨here, later⟩
      · exact List.forall_mem_cons.mpr ⟨here, induction later⟩

def HasScalarKeys (m : Keyed α) : Prop :=
  ∀ entry ∈ m, entry.1.isScalar = true

theorem HasScalarKeys.nil : HasScalarKeys ([] : Keyed α) := nofun

theorem HasScalarKeys.insert (keys : HasScalarKeys m) (scalar : key.isScalar = true) :
    HasScalarKeys (Keyed.insert key value m) :=
  forall_key_insert (P := fun key => key.isScalar = true) keys scalar

theorem HasScalarKeys.map {f : α → β} (keys : HasScalarKeys m) :
    HasScalarKeys (m.map fun entry => (entry.1, f entry.2)) := by
  intro entry member
  obtain ⟨original, among, rfl⟩ := List.mem_map.mp member
  exact keys original among

end Keyed

namespace Mapping

def field? (m : Mapping) (name : String) : Option Value :=
  Keyed.get? m (.string name)

def hasField (m : Mapping) (name : String) : Bool :=
  (field? m name).isSome

def ofEntries (entries : List (Value × Value)) : Mapping :=
  entries.foldl (fun m entry => Keyed.insert entry.1 entry.2 m) []

def ofFields (fields : List (String × Value)) : Mapping :=
  fields.map fun field => (.string field.1, field.2)

@[simp] theorem field?_nil (name : String) : field? [] name = none := rfl

end Mapping

end WalCheckpoint
