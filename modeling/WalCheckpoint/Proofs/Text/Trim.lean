import Mathlib.Data.List.TakeWhile
import WalCheckpoint.Text.Blank

namespace WalCheckpoint.Text

/-! What is left of a text without the characters dropped at its ends. -/

theorem exists_trimBy (drop : Char → Bool) (cs : List Char) :
    ∃ before after, cs = before ++ trimBy drop cs ++ after ∧
      (∀ c ∈ before, drop c = true) ∧ ∀ c ∈ after, drop c = true := by
  have front : cs = cs.takeWhile drop ++ cs.dropWhile drop :=
    List.takeWhile_append_dropWhile.symm
  have back : cs.dropWhile drop =
      trimBy drop cs ++ ((cs.dropWhile drop).reverse.takeWhile drop).reverse := by
    rw [trimBy, dropEnd, ← List.reverse_append, List.takeWhile_append_dropWhile,
      List.reverse_reverse]
  refine ⟨cs.takeWhile drop, ((cs.dropWhile drop).reverse.takeWhile drop).reverse, ?_,
    fun c member => List.mem_takeWhile_imp member,
    fun c member => List.mem_takeWhile_imp (List.mem_reverse.mp member)⟩
  rw [List.append_assoc, ← back]
  exact front

theorem dropWhile_enclosed {drop : Char → Bool} {before body : List Char}
    (dropped : ∀ c ∈ before, drop c = true) (kept : ∀ c ∈ body.head?, drop c = false) :
    (before ++ body).dropWhile drop = body := by
  rw [List.dropWhile_append_of_pos dropped]
  cases body with
  | nil => rfl
  | cons c rest => exact List.dropWhile_cons_of_neg (ne_true_of_eq_false (kept c rfl))

/-- What is dropped around a text is told by its first and its last character. -/
theorem trimBy_of_ends {drop : Char → Bool} {before body after : List Char}
    (droppedBefore : ∀ c ∈ before, drop c = true) (droppedAfter : ∀ c ∈ after, drop c = true)
    (first : ∀ c ∈ body.head?, drop c = false) (last : ∀ c ∈ body.getLast?, drop c = false) :
    trimBy drop (before ++ body ++ after) = body := by
  cases body with
  | nil =>
      have all : ∀ c ∈ before ++ [] ++ after, drop c = true := by
        rw [List.append_nil]
        exact List.forall_mem_append.mpr ⟨droppedBefore, droppedAfter⟩
      rw [trimBy, List.dropWhile_eq_nil_iff.mpr all]
      rfl
  | cons c rest =>
      rw [trimBy, List.append_assoc, dropWhile_enclosed droppedBefore (by simpa using first), dropEnd,
        List.reverse_append, dropWhile_enclosed (by simpa using droppedAfter), List.reverse_reverse]
      rw [List.head?_reverse]
      exact last

theorem trimBy_enclosed {drop : Char → Bool} {before body after : List Char}
    (droppedBefore : ∀ c ∈ before, drop c = true) (droppedAfter : ∀ c ∈ after, drop c = true)
    (kept : ∀ c ∈ body, drop c = false) : trimBy drop (before ++ body ++ after) = body :=
  trimBy_of_ends droppedBefore droppedAfter (fun c first => kept c (List.mem_of_mem_head? first))
    (fun c last => kept c (List.mem_of_mem_getLast? last))

theorem trimBy_map (drop : Char → Bool) (f : Char → Char) (cs : List Char) :
    trimBy drop (cs.map f) = (trimBy (drop ∘ f) cs).map f := by
  rw [trimBy, trimBy, dropEnd, dropEnd, List.dropWhile_map, ← List.map_reverse, List.dropWhile_map,
    ← List.map_reverse]

theorem trimBy_eq_self {drop : Char → Bool} {cs : List Char} (kept : ∀ c ∈ cs, drop c = false) :
    trimBy drop cs = cs := by
  simpa using trimBy_enclosed (List.forall_mem_nil _) (List.forall_mem_nil _) kept

end WalCheckpoint.Text
