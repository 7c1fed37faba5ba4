import Mathlib.Data.List.TakeWhile
import WalCheckpoint.Proofs.Json.RoundTrip
import WalCheckpoint.Yaml.Cursor

namespace WalCheckpoint.Yaml

open Json.Layout (Blank)

/-! Moving on over characters that are known. -/

namespace Cursor

variable {c : Cursor} {x : Char} {word rest : List Char}

theorem rest_next (c : Cursor) : c.next.rest = c.rest.drop 1 := by
  cases held : c.rest with
  | nil => simp [next, held]
  | cons x rest =>
      simp only [next, held]
      split
      · rfl
      · split <;> rfl

theorem rest_advance (n : Nat) (c : Cursor) : (c.advance n).rest = c.rest.drop n := by
  induction n generalizing c with
  | zero => rfl
  | succ n induction => rw [advance, induction, rest_next, List.drop_drop, Nat.add_comm]

theorem rest_advance_append (held : c.rest = word ++ rest) :
    (c.advance word.length).rest = rest := by
  rw [rest_advance, held, List.drop_left]

theorem head_eq (held : c.rest = x :: rest) : c.head = x := by
  rw [head, held]
  rfl

theorem peek_zero (c : Cursor) : c.peek 0 = c.head := by
  rw [peek, head, List.head?_eq_getElem?]

theorem peek_succ (held : c.rest = x :: rest) (n : Nat) :
    c.peek (n + 1) = rest[n]?.getD pastEnd := by
  rw [peek, held, List.getElem?_cons_succ]

/-- Within a line the place of a character is counted from any character before it. -/
theorem place_advance (held : c.rest = word ++ rest) (unbroken : ∀ x ∈ word, isBreak x = false) :
    (c.advance word.length).line = c.line ∧
      (c.advance word.length).index = c.index + word.length := by
  induction word generalizing c with
  | nil => exact ⟨rfl, rfl⟩
  | cons x word induction =>
      have here : c.next.line = c.line ∧ c.next.index = c.index + 1 := by
        rw [next, held]
        simp only [List.cons_append, unbroken x List.mem_cons_self, Bool.false_eq_true, if_false]
        split <;> exact ⟨rfl, rfl⟩
      have after : c.next.rest = word ++ rest := by rw [rest_next, held]; rfl
      obtain ⟨line, index⟩ := induction after fun y member =>
        unbroken y (List.mem_cons_of_mem x member)
      rw [List.length_cons, advance, line, index, here.1, here.2]
      exact ⟨rfl, by omega⟩

theorem takeWhile_eq {p : Char → Bool} (held : c.rest = word ++ rest) (all : ∀ x ∈ word, p x = true)
    (ends : ∀ x ∈ rest.head?, p x = false) : c.takeWhile p = word := by
  rw [takeWhile, held, List.takeWhile_append_of_pos all]
  cases rest with
  | nil => rw [List.takeWhile_nil, List.append_nil]
  | cons y rest =>
      rw [List.takeWhile_cons_of_neg (by simp [ends y rfl]), List.append_nil]

theorem dropWhile_eq {p : Char → Bool} (held : c.rest = word ++ rest) (all : ∀ x ∈ word, p x = true)
    (ends : ∀ x ∈ rest.head?, p x = false) : c.dropWhile p = c.advance word.length := by
  rw [dropWhile, takeWhile_eq held all ends]

end Cursor

/-- A text that begins with nothing that is passed over between tokens. -/
def Solid (cs : List Char) : Prop :=
  ∀ x ∈ cs.head?, x ≠ ' ' ∧ x ≠ '#' ∧ isBreak x = false ∧ x ≠ byteOrderMark

theorem Solid.nil : Solid [] := nofun

theorem Solid.cons {x : Char} {rest : List Char}
    (solid : x ≠ ' ' ∧ x ≠ '#' ∧ isBreak x = false ∧ x ≠ byteOrderMark) : Solid (x :: rest) := by
  intro y first
  obtain rfl := Option.some.inj first
  exact solid

section Gaps

variable {c : Cursor} {rest : List Char}

theorem Cursor.skipSpaces_of_ne (other : ∀ x ∈ c.rest.head?, x ≠ ' ') : c.skipSpaces = c := by
  have ends : ∀ x ∈ c.rest.head?, (x == ' ') = false := fun x first => by
    simpa using other x first
  have here : c.rest = [] ++ c.rest := rfl
  rw [skipSpaces, dropWhile_eq here nofun ends]
  rfl

theorem Cursor.skipSpaces_space (held : c.rest = ' ' :: rest) :
    c.skipSpaces = c.next.skipSpaces := by
  have after : c.next.rest = rest := by rw [rest_next, held]; rfl
  rw [skipSpaces, skipSpaces, dropWhile, dropWhile, takeWhile, takeWhile, held, after,
    List.takeWhile_cons_of_pos (p := (· == ' ')) rfl, List.length_cons, advance]

theorem Cursor.skipComment_of_ne (other : ∀ x ∈ c.rest.head?, x ≠ '#') : c.skipComment = c := by
  have none : c.head ≠ '#' := by
    cases held : c.rest with
    | nil => rw [head, held]; decide
    | cons x rest => rw [head_eq held]; exact other x (by rw [held]; rfl)
  rw [skipComment, if_neg none]

/-- What is left of blanks after spaces begins with a line feed. -/
theorem Cursor.skipSpaces_blank {blanks cs : List Char} (blank : Blank blanks) (solid : Solid cs)
    (held : c.rest = blanks ++ cs) :
    ∃ left, Blank left ∧ left.length ≤ blanks.length ∧ c.skipSpaces.rest = left ++ cs ∧
      ∀ x ∈ left.head?, x = '\n' := by
  induction blanks generalizing c with
  | nil =>
      have other : ∀ x ∈ c.rest.head?, x ≠ ' ' := by
        rw [held]
        exact fun x first => (solid x first).1
      rw [skipSpaces_of_ne other]
      exact ⟨[], blank, Nat.le_refl _, held, nofun⟩
  | cons x blanks induction =>
      rcases blank x List.mem_cons_self with rfl | rfl
      · have after : c.next.rest = blanks ++ cs := by rw [rest_next, held]; rfl
        obtain ⟨left, blank', shorter, rest, first⟩ := induction blank.tail after
        rw [skipSpaces_space held]
        exact ⟨left, blank', Nat.le_succ_of_le shorter, rest, first⟩
      · have other : ∀ x ∈ c.rest.head?, x ≠ ' ' := by
          rw [held]
          rintro x first rfl
          exact absurd (Option.some.inj first) (by decide)
        rw [skipSpaces_of_ne other]
        refine ⟨_, blank, Nat.le_refl _, held, fun x first => (Option.some.inj first).symm⟩

end Gaps

end WalCheckpoint.Yaml
