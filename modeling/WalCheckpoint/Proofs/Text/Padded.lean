import Mathlib.Algebra.Order.Ring.Nat
import Mathlib.Data.List.Lex
import WalCheckpoint.Text.Padded

namespace WalCheckpoint.Text

/-! Numbers written to a width: they are read back, they can be told from what follows them, and
they sort as the numbers do. -/

theorem padLeft_toDigits {base width : Nat} (proper : 1 < base) (positive : 0 < width) (n : Nat) :
    padLeft '0' (width + 1) (Nat.toDigits base n) =
      padLeft '0' width (Nat.toDigits base (n / base)) ++ [Nat.digitChar (n % base)] := by
  rcases Nat.lt_or_ge n base with small | large
  · rw [Nat.toDigits_of_lt_base small, Nat.div_eq_of_lt small, Nat.mod_eq_of_lt small,
      Nat.toDigits_zero]
    obtain ⟨before, rfl⟩ := Nat.exists_eq_add_of_lt positive
    simp [padLeft, ← List.replicate_succ']
  · rw [Nat.toDigits_of_base_le proper large]
    simp [padLeft]

theorem ofDigitChars_paddedDecimal (width n : Nat) :
    Nat.ofDigitChars 10 (paddedDecimal width n) 0 = n := by
  rw [paddedDecimal, padLeft, Nat.ofDigitChars_append, Nat.ofDigitChars_replicate_zero,
    Nat.mul_zero, Nat.ofDigitChars_toDigits (by decide) (by decide)]

section Width

variable {width n n' : Nat} {rest rest' : List Char}

theorem length_paddedDecimal (positive : 0 < width) (short : n < 10 ^ width) :
    (paddedDecimal width n).length = width := by
  rw [paddedDecimal, length_padLeft, max_eq_left]
  exact (Nat.length_toDigits_le_iff (by decide) positive).mpr short

/-- Of two texts that begin with numbers of one width, the numbers and the rests can be told. -/
theorem paddedDecimal_append_inj (positive : 0 < width) (short : n < 10 ^ width)
    (short' : n' < 10 ^ width)
    (same : paddedDecimal width n ++ rest = paddedDecimal width n' ++ rest') :
    n = n' ∧ rest = rest' := by
  have lengths : (paddedDecimal width n).length = (paddedDecimal width n').length := by
    rw [length_paddedDecimal positive short, length_paddedDecimal positive short']
  obtain ⟨padded, rests⟩ := List.append_inj same lengths
  refine ⟨?_, rests⟩
  rw [← ofDigitChars_paddedDecimal width n, padded, ofDigitChars_paddedDecimal]

end Width

/-- Texts sort by the code points of the first characters that differ, and after the texts they
begin with. -/
def Precedes (cs cs' : List Char) : Prop :=
  List.Lex (fun c c' => c.toNat < c'.toNat) cs cs'

namespace Precedes

variable {cs cs' : List Char}

theorem ne (earlier : Precedes cs cs') : cs ≠ cs' := by
  rintro rfl
  exact List.lex_irrefl (fun c => Nat.lt_irrefl c.toNat) cs earlier

theorem append_left (common : List Char) (earlier : Precedes cs cs') :
    Precedes (common ++ cs) (common ++ cs') :=
  List.Lex.append_left _ earlier common

/-- Texts of one length sort alike whatever follows them. -/
theorem append (earlier : Precedes cs cs') (lengths : cs.length = cs'.length)
    (rest rest' : List Char) : Precedes (cs ++ rest) (cs' ++ rest') := by
  induction earlier with
  | nil => contradiction
  | rel less => exact .rel less
  | cons earlier induction => exact .cons (induction (Nat.succ.inj lengths))

end Precedes

section Order

variable {width n n' : Nat}

theorem precedes_digitChar (less : n < n') (small : n' < 10) (rest rest' : List Char) :
    Precedes (Nat.digitChar n :: rest) (Nat.digitChar n' :: rest') := by
  apply List.Lex.rel
  rw [Nat.toNat_digitChar_of_lt_ten (Nat.lt_trans less small), Nat.toNat_digitChar_of_lt_ten small]
  exact Nat.add_lt_add_left less 48

theorem precedes_paddedDecimal (positive : 0 < width) (less : n < n') (short : n' < 10 ^ width) :
    Precedes (paddedDecimal width n) (paddedDecimal width n') := by
  induction width, positive using Nat.le_induction generalizing n n' with
  | base =>
      have single {k : Nat} (small : k < 10) : paddedDecimal 1 k = [Nat.digitChar k] := by
        rw [paddedDecimal, Nat.toDigits_of_lt_base small]
        rfl
      rw [single (Nat.lt_trans less short), single short]
      exact precedes_digitChar less short [] []
  | succ width positive induction =>
      have split (k : Nat) : paddedDecimal (width + 1) k =
          paddedDecimal width (k / 10) ++ [Nat.digitChar (k % 10)] :=
        padLeft_toDigits (by decide) positive k
      have short : n' / 10 < 10 ^ width := Nat.div_lt_of_lt_mul (Nat.pow_succ' .. ▸ short)
      rw [split n, split n']
      rcases Nat.lt_or_ge (n / 10) (n' / 10) with tens | tens
      · refine (induction tens short).append ?_ _ _
        rw [length_paddedDecimal positive (Nat.lt_trans tens short),
          length_paddedDecimal positive short]
      · have same : n / 10 = n' / 10 := by omega
        rw [same]
        exact (precedes_digitChar (by omega) (Nat.mod_lt n' (by decide)) [] []).append_left _

/-- Where texts begin with numbers of one width, the numbers sort them, and the rests where the
numbers are the same. -/
theorem precedes_paddedDecimal_append {rest rest' : List Char} (positive : 0 < width)
    (short : n < 10 ^ width) (short' : n' < 10 ^ width)
    (earlier : n < n' ∨ n = n' ∧ Precedes rest rest') :
    Precedes (paddedDecimal width n ++ rest) (paddedDecimal width n' ++ rest') := by
  rcases earlier with less | ⟨rfl, later⟩
  · refine (precedes_paddedDecimal positive less short').append ?_ rest rest'
    rw [length_paddedDecimal positive short, length_paddedDecimal positive short']
  · exact later.append_left _

end Order

end WalCheckpoint.Text
