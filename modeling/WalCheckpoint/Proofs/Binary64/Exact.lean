import Mathlib.Algebra.Order.Field.Basic
import Mathlib.Data.Rat.Cast.Order
import WalCheckpoint.Binary64

namespace WalCheckpoint.Binary64

/-! The exact value of a finite number, and how the whole numbers and the order of floats follow
from it. -/

def Form.rational? : Form → Option ℚ
  | .finite negative mantissa exponent =>
      some ((if negative then -1 else 1) * (mantissa * 2 ^ exponent))
  | _ => none

/-- The number itself, where it is finite. -/
def rational? (x : Binary64) : Option ℚ :=
  x.form.rational?

theorem scale_pos (mantissa : Nat) (exponent : Int) : 0 < (scale mantissa 1 exponent).2 := by
  rw [scale]
  split
  · exact Nat.one_pos
  · rw [Nat.one_shiftLeft]
    exact Nat.two_pow_pos _

theorem scale_quotient (mantissa : Nat) (exponent : Int) :
    ((scale mantissa 1 (-exponent)).1 : ℚ) / (scale mantissa 1 (-exponent)).2 =
      mantissa * 2 ^ exponent := by
  rw [scale]
  split
  · next above =>
      obtain ⟨places, rfl⟩ := Int.eq_ofNat_of_zero_le (show 0 ≤ exponent by omega)
      simp [Nat.shiftLeft_eq]
  · next below =>
      obtain ⟨places, whole⟩ := Int.eq_ofNat_of_zero_le (show 0 ≤ -exponent by omega)
      obtain rfl : exponent = -(places : ℤ) := by omega
      simp [Nat.one_shiftLeft, div_eq_mul_inv]

/-- The fraction a finite number is kept as is its exact value. -/
theorem ratio?_eq_some {x : Binary64} {n : Int} {d : Nat} (ratio : x.ratio? = some (n, d)) :
    0 < d ∧ x.rational? = some ((n : ℚ) / d) := by
  rw [ratio?] at ratio
  rw [rational?]
  cases form : x.form with
  | finite negative mantissa exponent =>
      rw [form] at ratio
      have positive := scale_pos mantissa (-exponent)
      have quotient := scale_quotient mantissa exponent
      dsimp only at ratio
      generalize scale mantissa 1 (-exponent) = scaled at *
      obtain ⟨rfl, rfl⟩ := Prod.mk.inj (Option.some.inj ratio)
      refine ⟨positive, ?_⟩
      rw [Form.rational?, ← quotient]
      cases negative <;> simp [neg_div]
  | nan => rw [form] at ratio; contradiction
  | infinite negative => rw [form] at ratio; contradiction

theorem ratio?_eq_none_iff {x : Binary64} : x.ratio? = none ↔ x.rational? = none := by
  rw [ratio?, rational?]
  cases x.form <;> simp [Form.rational?]

/-- A float is whole exactly where its exact value is a whole number. -/
theorem integral?_eq_some_iff {x : Binary64} {n : Int} :
    x.integral? = some n ↔ x.rational? = some (n : ℚ) := by
  rw [integral?]
  cases ratio : x.ratio? with
  | none => rw [ratio?_eq_none_iff.mp ratio]; exact iff_of_false nofun nofun
  | some fraction =>
      obtain ⟨numerator, denominator⟩ := fraction
      obtain ⟨positive, exact⟩ := ratio?_eq_some ratio
      have nonzero : (denominator : ℚ) ≠ 0 := by exact_mod_cast positive.ne'
      rw [exact, Option.some.injEq, div_eq_iff nonzero]
      dsimp only
      constructor
      · intro read
        split at read
        · next whole =>
            obtain rfl := Option.some.inj read
            exact_mod_cast (Int.ediv_mul_cancel (Int.dvd_of_emod_eq_zero whole)).symm
        · contradiction
      · intro same
        have same : numerator = n * denominator := by exact_mod_cast same
        rw [same, if_pos (Int.mul_emod_left n denominator), Int.mul_ediv_cancel]
        exact_mod_cast positive.ne'

/-- Fractions with positive denominators are equal where they are after cross multiplication. -/
theorem quotient_eq_iff {n n' : Int} {d d' : Nat} (positive : 0 < d) (positive' : 0 < d') :
    (n : ℚ) / d = (n' : ℚ) / d' ↔ n * d' = n' * d := by
  have nonzero : (d : ℚ) ≠ 0 := by exact_mod_cast positive.ne'
  have nonzero' : (d' : ℚ) ≠ 0 := by exact_mod_cast positive'.ne'
  rw [div_eq_div_iff nonzero nonzero']
  exact_mod_cast Iff.rfl

theorem rational?_of_finite {x : Binary64} {negative : Bool} {mantissa : Nat} {exponent : Int}
    (form : x.form = .finite negative mantissa exponent) :
    ∃ n d, x.ratio? = some (n, d) ∧ 0 < d ∧ x.rational? = some ((n : ℚ) / d) := by
  cases ratio : x.ratio? with
  | none =>
      have none : x.rational? = none := ratio?_eq_none_iff.mp ratio
      rw [rational?, form] at none
      contradiction
  | some fraction => exact ⟨_, _, rfl, ratio?_eq_some ratio⟩

/-- A float compares as equal to a whole number exactly where that is its value. -/
theorem compareInt?_eq_iff {x : Binary64} {n : Int} :
    x.compareInt? n = some .eq ↔ x.rational? = some (n : ℚ) := by
  rw [compareInt?]
  cases form : x.form with
  | nan => rw [rational?, form]; exact iff_of_false nofun nofun
  | infinite negative =>
      rw [rational?, form]
      cases negative <;> exact iff_of_false nofun nofun
  | finite negative mantissa exponent =>
      obtain ⟨numerator, denominator, ratio, positive, exact⟩ := rational?_of_finite form
      rw [ratio, exact, Option.some.injEq, Option.some.injEq, compare_eq_iff_eq]
      have whole : (numerator : ℚ) / denominator = (n : ℚ) / (1 : ℕ) ↔
          numerator * (1 : ℕ) = n * denominator := quotient_eq_iff positive Nat.one_pos
      rw [Nat.cast_one, Nat.cast_one, div_one, mul_one] at whole
      exact whole.symm

/-- Floats compare as equal where both are infinite the same way or have the same value. -/
theorem compare?_eq_iff {x y : Binary64} :
    x.compare? y = some .eq ↔
      (∃ negative, x.form = .infinite negative ∧ y.form = .infinite negative) ∨
        ∃ q, x.rational? = some q ∧ y.rational? = some q := by
  rw [compare?]
  cases form' : y.form with
  | nan =>
      have none : y.rational? = none := by rw [rational?, form']; rfl
      rw [none]
      exact iff_of_false nofun (by simp)
  | infinite negative' =>
      have none : y.rational? = none := by rw [rational?, form']; rfl
      rw [none]
      cases form : x.form with
      | nan => exact iff_of_false nofun (by simp)
      | infinite negative => cases negative <;> cases negative' <;> simp
      | finite => cases negative' <;> exact iff_of_false nofun (by simp)
  | finite negative' mantissa' exponent' =>
      obtain ⟨n', d', ratio', positive', exact'⟩ := rational?_of_finite form'
      rw [ratio', exact']
      cases form : x.form with
      | nan =>
          have none : x.rational? = none := by rw [rational?, form]; rfl
          rw [none]
          exact iff_of_false nofun (by simp)
      | infinite negative =>
          have none : x.rational? = none := by rw [rational?, form]; rfl
          rw [none]
          cases negative <;> exact iff_of_false nofun (by simp)
      | finite negative mantissa exponent =>
          obtain ⟨n, d, ratio, positive, exact⟩ := rational?_of_finite form
          rw [ratio, exact]
          simp only [Option.some.injEq, compare_eq_iff_eq, reduceCtorEq, false_and, exists_false,
            false_or, exists_eq_left', quotient_eq_iff positive' positive]
          exact eq_comm

end WalCheckpoint.Binary64
