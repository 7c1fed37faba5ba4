import Mathlib.Data.Nat.Digits.Defs
import WalCheckpoint.Text.Numeral

namespace WalCheckpoint

/-! Digits to any base: in a text that is read, and of a number that is written. -/

/-- Only zero is written with a zero in front. -/
theorem Nat.toDigits_ne_zero_cons {base n : Nat} (proper : 1 < base) (positive : 0 < n)
    (cs : List Char) : Nat.toDigits base n ≠ '0' :: cs := by
  induction n using Nat.strongRecOn generalizing cs with
  | ind n induction =>
      rcases Nat.lt_or_ge n base with small | large
      · rw [Nat.toDigits_of_lt_base small]
        intro same
        exact absurd (Nat.digitChar_eq_zero.mp (List.head_eq_of_cons_eq same)) (by omega)
      · rw [Nat.toDigits_of_base_le proper large]
        intro same
        rcases List.append_eq_cons_iff.mp same with ⟨none, -⟩ | ⟨digits, first, -⟩
        · exact Nat.toDigits_ne_nil none
        · exact induction (n / base) (Nat.div_lt_self positive proper)
            (Nat.div_pos large (by omega)) digits first

theorem Nat.length_toDigits_le {n limit : Nat} (positive : 0 < limit) (short : n < Nat.pow 10 limit) :
    (Nat.toDigits 10 n).length ≤ limit :=
  (Nat.length_toDigits_le_iff (by decide) positive).mpr short

/-- The digits a number is written with are below the base, and add up to the number. -/
theorem Nat.exists_toDigits {base : Nat} (proper : 1 < base) (n : Nat) :
    ∃ digits : List Nat, Nat.toDigits base n = digits.map Nat.digitChar ∧
      (∀ digit ∈ digits, digit < base) ∧ Nat.ofDigits base digits.reverse = n := by
  induction n using Nat.strongRecOn with
  | ind n induction =>
      rcases Nat.lt_or_ge n base with small | large
      · exact ⟨[n], Nat.toDigits_of_lt_base small, List.forall_mem_singleton.mpr small, by simp⟩
      · obtain ⟨digits, written, below, told⟩ :=
          induction (n / base) (Nat.div_lt_self (by omega) proper)
        refine ⟨digits ++ [n % base], ?_, ?_, ?_⟩
        · rw [Nat.toDigits_of_base_le proper large, written, List.map_append, List.map_singleton]
        · exact List.forall_mem_append.mpr ⟨below,
            List.forall_mem_singleton.mpr (Nat.mod_lt n (Nat.lt_of_succ_lt proper))⟩
        · rw [List.reverse_append, List.reverse_singleton, List.singleton_append, Nat.ofDigits_cons,
            told]
          exact Nat.mod_add_div n base

namespace Text.Numeral

theorem ofDigits_eq (base : Nat) (digits : List Nat) :
    ofDigits base digits = Nat.ofDigits base digits.reverse := by
  rw [ofDigits, Nat.ofDigits_eq_foldr, List.foldr_reverse]
  congr 1
  funext value digit
  rw [Nat.add_comm, Nat.mul_comm, Nat.cast_id]

/-- Digits of any kind with single underscores between them. -/
inductive Grouped (digit? : Char → Option Nat) : List Char → List Nat → Prop
  | last {c : Char} {digit : Nat} (value : digit? c = some digit) : Grouped digit? [c] [digit]
  | next {c : Char} {digit : Nat} {cs : List Char} {digits : List Nat}
      (value : digit? c = some digit) (rest : Grouped digit? cs digits) :
      Grouped digit? (c :: cs) (digit :: digits)
  | spaced {c : Char} {digit : Nat} {cs : List Char} {digits : List Nat}
      (value : digit? c = some digit) (rest : Grouped digit? cs digits) :
      Grouped digit? (c :: '_' :: cs) (digit :: digits)

section Grouped

variable {digit? : Char → Option Nat} {cs : List Char} {digits : List Nat}

theorem Grouped.head (body : Grouped digit? cs digits) :
    ∃ c rest digit, cs = c :: rest ∧ digit? c = some digit := by
  cases body with
  | last value => exact ⟨_, _, _, rfl, value⟩
  | next value => exact ⟨_, _, _, rfl, value⟩
  | spaced value => exact ⟨_, _, _, rfl, value⟩

/-- What is true of the underscore and of each digit is true of all characters. -/
theorem Grouped.forall {P : Char → Prop} (mark : P '_')
    (each : ∀ c digit, digit? c = some digit → P c) (body : Grouped digit? cs digits) :
    ∀ c ∈ cs, P c := by
  induction body with
  | last value => exact List.forall_mem_singleton.mpr (each _ _ value)
  | next value rest induction => exact List.forall_mem_cons.mpr ⟨each _ _ value, induction⟩
  | spaced value rest induction =>
      exact List.forall_mem_cons.mpr ⟨each _ _ value, List.forall_mem_cons.mpr ⟨mark, induction⟩⟩

theorem digits?_last (c : Char) : digits? digit? [c] = (digit? c).map ([·]) := by
  rw [digits?]
  cases digit? c <;> rfl

theorem digits?_spaced (c : Char) (cs : List Char) :
    digits? digit? (c :: '_' :: cs) =
      (digit? c).bind fun digit => (digits? digit? cs).map (digit :: ·) := by
  rw [digits?]
  cases digit? c <;> rfl

theorem digits?_next (c : Char) {d : Char} (cs : List Char) (away : d ≠ '_') :
    digits? digit? (c :: d :: cs) =
      (digit? c).bind fun digit => (digits? digit? (d :: cs)).map (digit :: ·) := by
  rw [digits?]
  cases digit? c with
  | none => rfl
  | some digit =>
      dsimp only [Option.bind_some]
      split
      · contradiction
      · next same => exact absurd (List.cons.inj same).1 away
      · next same => rw [same]

theorem Grouped.digits?_eq (unread : digit? '_' = none) (body : Grouped digit? cs digits) :
    digits? digit? cs = some digits := by
  induction body with
  | last value => rw [digits?_last, value]; rfl
  | next value rest induction =>
      obtain ⟨d, more, digit, rfl, later⟩ := rest.head
      have away : d ≠ '_' := by
        rintro rfl
        rw [unread] at later
        contradiction
      rw [digits?_next _ _ away, value, induction]
      rfl
  | spaced value rest induction => rw [digits?_spaced, value, induction]; rfl

theorem Grouped.of_digits? : (cs : List Char) → (digits : List Nat) →
    digits? digit? cs = some digits → Grouped digit? cs digits
  | [], _, read => nomatch read
  | [c], digits, read => by
      rw [digits?_last] at read
      obtain ⟨digit, value, rfl⟩ := Option.map_eq_some_iff.mp read
      exact .last value
  | c :: d :: more, digits, read => by
      by_cases mark : d = '_'
      · rw [mark, digits?_spaced] at read
        obtain ⟨digit, value, read⟩ := Option.bind_eq_some_iff.mp read
        obtain ⟨rest, later, rfl⟩ := Option.map_eq_some_iff.mp read
        exact mark ▸ .spaced value (of_digits? more rest later)
      · rw [digits?_next _ _ mark] at read
        obtain ⟨digit, value, read⟩ := Option.bind_eq_some_iff.mp read
        obtain ⟨rest, later, rfl⟩ := Option.map_eq_some_iff.mp read
        exact .next value (of_digits? (d :: more) rest later)

theorem digits?_eq_some_iff (unread : digit? '_' = none) :
    digits? digit? cs = some digits ↔ Grouped digit? cs digits :=
  ⟨.of_digits? cs digits, Grouped.digits?_eq unread⟩

/-- Characters may be replaced before they are read as digits, where none but the underscore becomes
one. -/
theorem digits?_map {f : Char → Char} (kept : ∀ c, f c = '_' ↔ c = '_') :
    (cs : List Char) → digits? digit? (cs.map f) = digits? (digit? ∘ f) cs
  | [] => rfl
  | [c] => by rw [List.map_singleton, digits?_last, digits?_last, Function.comp_apply]
  | c :: d :: more => by
      rw [List.map_cons, List.map_cons]
      by_cases mark : d = '_'
      · rw [(kept d).mpr mark, mark, digits?_spaced, digits?_spaced, digits?_map kept more,
          Function.comp_apply]
      · rw [digits?_next _ _ fun same => mark ((kept d).mp same), digits?_next _ _ mark,
          ← List.map_cons, digits?_map kept (d :: more), Function.comp_apply]

end Grouped

end Text.Numeral

end WalCheckpoint
