import Mathlib.Algebra.Order.Ring.Nat
import WalCheckpoint.Json.Write

namespace WalCheckpoint

/-! Values whose numerals can be written. A value has a text unless a number in it has too many
digits, and nothing else keeps a single value out of JSON. -/

theorem Text.Numeral.write?_isSome (n : Int) :
    (write? n).isSome = decide (n.natAbs < Nat.pow 10 digitLimit) := by
  rw [write?]
  split
  · next short => rw [decide_eq_true short]; rfl
  · next long => rw [decide_eq_false long]; rfl

namespace Value

mutual
/-- Whether no whole number within a value has more digits than are ever written. -/
def isTellable : Value → Bool
  | .int n => n.natAbs < Nat.pow 10 Text.Numeral.digitLimit
  | .list items => areTellable items
  | .pair first second => isTellable first && isTellable second
  | .set members => areTellable members
  | .map entries => areTellableEntries entries
  | _ => true
termination_by structural value => value

def areTellable : List Value → Bool
  | [] => true
  | item :: rest => isTellable item && areTellable rest
termination_by structural items => items

def areTellableEntries : List (Value × Value) → Bool
  | [] => true
  | (key, value) :: rest => isTellable key && isTellable value && areTellableEntries rest
termination_by structural entries => entries
end

theorem isTellable_int (n : Int) : (Value.int n).isTellable = (Text.Numeral.write? n).isSome :=
  (Text.Numeral.write?_isSome n).symm

theorem isTellable_int_iff (n : Int) :
    (Value.int n).isTellable = true ↔ n.natAbs < Nat.pow 10 Text.Numeral.digitLimit := by
  rw [isTellable_int, Text.Numeral.write?_isSome, decide_eq_true_iff]

theorem isTellable_of_natAbs_lt {n : Int} (small : n.natAbs < 10 ^ 18) :
    (Value.int n).isTellable = true := by
  have longer {limit : Nat} (enough : 18 ≤ limit) : 10 ^ 18 ≤ Nat.pow 10 limit :=
    Nat.pow_le_pow_right (by decide) enough
  rw [isTellable_int_iff]
  exact Nat.lt_of_lt_of_le small (longer (by decide))

theorem areTellable_iff (items : List Value) :
    areTellable items = true ↔ ∀ item ∈ items, item.isTellable = true := by
  induction items with
  | nil => simp [areTellable]
  | cons item rest induction => simp [areTellable, induction]

theorem areTellable_eq_of_perm {items items' : List Value} (perm : items.Perm items') :
    areTellable items = areTellable items' := by
  rw [Bool.eq_iff_iff, areTellable_iff, areTellable_iff]
  exact forall_congr' fun item => imp_congr perm.mem_iff Iff.rfl

mutual
theorem display?_isSome : (v : Value) → v.display?.isSome = v.isTellable
  | .null => rfl
  | .bool _ => rfl
  | .int n => (isTellable_int n).symm
  | .float _ => rfl
  | .string _ => rfl
  | .broken _ => rfl
  | .bytes _ => rfl
  | .list items => by
      rw [display?, isTellable, Option.isSome_map, displayItems?_isSome items]
  | .pair first second => by
      rw [display?, isTellable, ← display?_isSome first, ← display?_isSome second]
      cases display? first <;> cases display? second <;> rfl
  | .set members => by
      rw [display?, isTellable, Option.isSome_map, displayItems?_isSome members]
  | .map entries => by
      rw [display?, isTellable, Option.isSome_map, displayEntries?_isSome entries]
  | .date _ => rfl
  | .dateTime _ => rfl
  | .enclosing _ => rfl

theorem displayItems?_isSome : (items : List Value) →
    (displayItems? items).isSome = areTellable items
  | [] => rfl
  | item :: rest => by
      rw [displayItems?, areTellable, ← display?_isSome item, ← displayItems?_isSome rest]
      cases display? item <;> cases displayItems? rest <;> rfl

theorem displayEntries?_isSome : (entries : List (Value × Value)) →
    (displayEntries? entries).isSome = areTellableEntries entries
  | [] => rfl
  | (key, value) :: rest => by
      rw [displayEntries?, areTellableEntries, ← display?_isSome key, ← display?_isSome value,
        ← displayEntries?_isSome rest]
      cases display? key <;> cases display? value <;> cases displayEntries? rest <;> rfl
end

end Value

end WalCheckpoint
