import Mathlib.Algebra.Order.Ring.Nat
import Mathlib.Tactic.SplitIfs
import WalCheckpoint.Time.DateTime

namespace WalCheckpoint.Time

/-! The calendar covers its years without a gap: every instant of them has one date and one time
of day, and no other instant has any. -/

namespace Date

theorem isLeap_iff (year : Nat) :
    isLeap year = true ↔ year % 4 = 0 ∧ (year % 100 ≠ 0 ∨ year % 400 = 0) := by
  simp [isLeap]

theorem sum_monthLengths (year : Nat) :
    (monthLengths year).sum = if isLeap year then 366 else 365 := by
  cases leap : isLeap year <;> simp [monthLengths, leap]

/-- A year begins where the one before it ends. -/
theorem yearStart_succ {year : Nat} (positive : 0 < year) :
    yearStart (year + 1) = yearStart year + (monthLengths year).sum := by
  obtain ⟨complete, rfl⟩ := Nat.exists_eq_add_of_lt positive
  rw [Nat.zero_add, sum_monthLengths, yearStart, yearStart, Nat.add_sub_cancel, Nat.add_sub_cancel]
  have fourth : (complete + 1) / 4 = complete / 4 + if 4 ∣ complete + 1 then 1 else 0 :=
    Nat.succ_div
  have hundredth : (complete + 1) / 100 = complete / 100 + if 100 ∣ complete + 1 then 1 else 0 :=
    Nat.succ_div
  have cycle : (complete + 1) / 400 = complete / 400 + if 400 ∣ complete + 1 then 1 else 0 :=
    Nat.succ_div
  have ordered : complete / 100 ≤ complete / 4 := by omega
  rw [fourth, hundredth, cycle]
  simp only [isLeap_iff, Nat.dvd_iff_mod_eq_zero]
  generalize complete / 4 = fourths at *
  generalize complete / 100 = hundreds at *
  generalize complete / 400 = cycles at *
  split_ifs <;> omega

theorem yearStart_mono : Monotone yearStart := by
  refine monotone_nat_of_le_succ fun year => ?_
  rcases Nat.eq_zero_or_pos year with rfl | positive
  · decide
  · exact (yearStart_succ positive).symm ▸ Nat.le_add_right _ _

/-- Four hundred times the days of some years are close to their number times the days of four
hundred years. -/
theorem yearStart_bounds (complete : Nat) :
    146097 * complete ≤ 400 * yearStart (complete + 1) + 1000 ∧
      400 * yearStart (complete + 1) ≤ 146097 * complete + 1000 := by
  rw [yearStart, Nat.add_sub_cancel]
  omega

theorem yearStart_yearOfOrdinal (n : Nat) :
    0 < yearOfOrdinal n ∧ yearStart (yearOfOrdinal n) ≤ n ∧
      n < yearStart (yearOfOrdinal n + 1) := by
  have estimate : 146097 * (n * 400 / 146097) ≤ n * 400 ∧
      n * 400 < 146097 * (n * 400 / 146097) + 146097 := by omega
  rw [yearOfOrdinal]
  generalize n * 400 / 146097 = complete at estimate ⊢
  have here := yearStart_bounds complete
  have next := yearStart_bounds (complete + 1)
  have second := yearStart_bounds (complete + 1 + 1)
  split
  · next early =>
      cases complete with
      | zero => simp [yearStart] at early
      | succ before =>
          have previous := yearStart_bounds before
          simp only [Nat.add_sub_cancel]
          omega
  · next started =>
      split
      · next late => exact ⟨by omega, late, by omega⟩
      · next running => exact ⟨by omega, by omega, by omega⟩

/-- The days of the calendar. -/
def dayCount : Nat := 3652059

theorem yearOfOrdinal_le_iff (n : Nat) : yearOfOrdinal n ≤ lastYear ↔ n < dayCount := by
  obtain ⟨-, started, running⟩ := yearStart_yearOfOrdinal n
  have count : yearStart (lastYear + 1) = dayCount := by decide
  rw [← count]
  constructor
  · intro within
    exact Nat.lt_of_lt_of_le running (yearStart_mono (Nat.succ_le_succ within))
  · intro early
    by_contra beyond
    have later : yearStart (lastYear + 1) ≤ yearStart (yearOfOrdinal n) :=
      yearStart_mono (Nat.lt_of_not_le beyond)
    omega

theorem splitMonths_spec (lengths : List Nat) (month day : Nat) (within : day < lengths.sum) :
    ∃ index < lengths.length, (lengths.take index).sum ≤ day ∧
      day - (lengths.take index).sum < lengths.getD index 0 ∧
      splitMonths lengths month day = (month + index, day - (lengths.take index).sum + 1) := by
  induction lengths generalizing month day with
  | nil => exact absurd within (Nat.not_lt_zero day)
  | cons length rest induction =>
      rw [splitMonths]
      split
      · next here => exact ⟨0, by simp, by simp, by simpa using here, by simp⟩
      · next later =>
          rw [List.sum_cons] at within
          obtain ⟨index, inside, started, running, split⟩ :=
            induction (month + 1) (day - length) (by omega)
          refine ⟨index + 1, Nat.succ_lt_succ inside, ?_, ?_, ?_⟩
          · rw [List.take_succ_cons, List.sum_cons]
            omega
          · rw [List.take_succ_cons, List.sum_cons, List.getD_cons_succ, ← Nat.sub_sub]
            exact running
          · rw [split, List.take_succ_cons, List.sum_cons, Nat.sub_sub, Nat.add_right_comm,
              Nat.add_assoc]

theorem ofOrdinal?_of_lt {n : Nat} (within : n < dayCount) :
    ∃ d, ofOrdinal? n = some d ∧ d.ordinal = n := by
  obtain ⟨positive, started, running⟩ := yearStart_yearOfOrdinal n
  rw [yearStart_succ positive] at running
  obtain ⟨index, inside, before, day, split⟩ :=
    splitMonths_spec (monthLengths (yearOfOrdinal n)) 1 (n - yearStart (yearOfOrdinal n)) (by omega)
  have twelve : index < 12 := inside
  have proper : 0 < yearOfOrdinal n ∧ yearOfOrdinal n ≤ lastYear ∧ 0 < 1 + index ∧
      1 + index ≤ 12 ∧ 0 < n - yearStart (yearOfOrdinal n) -
        ((monthLengths (yearOfOrdinal n)).take index).sum + 1 ∧
      n - yearStart (yearOfOrdinal n) - ((monthLengths (yearOfOrdinal n)).take index).sum + 1 ≤
        daysInMonth (yearOfOrdinal n) (1 + index) := by
    refine ⟨positive, (yearOfOrdinal_le_iff n).mpr within, by omega, by omega, by omega, ?_⟩
    rw [daysInMonth, Nat.add_sub_cancel_left]
    exact day
  refine ⟨⟨_, _, _, proper.1, proper.2.1, proper.2.2.1, proper.2.2.2.1, proper.2.2.2.2.1,
    proper.2.2.2.2.2⟩, ?_, ?_⟩
  · simp only [ofOrdinal?, split]
    rw [make?, dif_pos proper]
  · simp only [ordinal, monthStart, Nat.add_sub_cancel_left, Nat.add_sub_cancel,
      ← List.sum_eq_foldl]
    omega

theorem ofOrdinal?_of_ge {n : Nat} (beyond : dayCount ≤ n) : ofOrdinal? n = none := by
  simp only [ofOrdinal?, make?]
  rw [dif_neg]
  rintro ⟨-, within, -⟩
  exact absurd ((yearOfOrdinal_le_iff n).mp within) (by omega)

end Date

theorem Clock.ofMicros?_of_lt {n : Nat} (within : n < microsPerDay) :
    ∃ c, Clock.ofMicros? n = some c ∧ c.micros = n := by
  rw [microsPerDay] at within
  have proper : n / 1000000 / 3600 < 24 ∧ n / 1000000 / 60 % 60 < 60 ∧ n / 1000000 % 60 < 60 ∧
      n % 1000000 < 1000000 := by omega
  refine ⟨⟨_, _, _, _, proper.1, proper.2.1, proper.2.2.1, proper.2.2.2⟩, ?_, ?_⟩
  · simp only [ofMicros?]
    rw [make?, dif_pos proper]
  · simp only [micros]
    omega

namespace DateTime

/-- The first and the last instant of the calendar. -/
def firstMicros : Int := -62135596800000000

def lastMicros : Int := 253402300799999999

theorem ofMicros?_of_within {m : Int} (first : firstMicros ≤ m) (last : m ≤ lastMicros) :
    ∃ t, ofMicros? m = some t ∧ t.toMicros = m := by
  rw [firstMicros] at first
  rw [lastMicros] at last
  obtain ⟨elapsed, since⟩ : ∃ elapsed : Nat, m + epochMicros = elapsed :=
    Int.eq_ofNat_of_zero_le (by rw [epochMicros]; omega)
  have day : elapsed / microsPerDay < Date.dayCount := by
    rw [epochMicros] at since
    rw [microsPerDay, Date.dayCount]
    omega
  obtain ⟨date, hdate, ordinal⟩ := Date.ofOrdinal?_of_lt day
  obtain ⟨clock, hclock, micros⟩ :=
    Clock.ofMicros?_of_lt (Nat.mod_lt elapsed (show 0 < microsPerDay by decide))
  refine ⟨⟨date, clock, some UtcOffset.utc⟩, ?_, ?_⟩
  · simp only [ofMicros?, since, Int.toNat_natCast, hdate, hclock]
    rw [if_neg (by omega)]
  · have whole := Nat.div_add_mod' elapsed microsPerDay
    simp only [toMicros, localMicros, ordinal, micros, Option.elim, UtcOffset.utc]
    omega

theorem ofMicros?_of_outside {m : Int} (outside : m < firstMicros ∨ lastMicros < m) :
    ofMicros? m = none := by
  rw [firstMicros, lastMicros] at outside
  have epoch : (epochMicros : Int) = 62135596800000000 := rfl
  rw [ofMicros?]
  rcases outside with early | late
  · rw [if_pos (by omega)]
  · have beyond : Date.dayCount ≤ (m + epochMicros).toNat / microsPerDay := by
      rw [microsPerDay, Date.dayCount]
      omega
    rw [if_neg (by omega), Date.ofOrdinal?_of_ge beyond]

theorem ofMicros?_isSome_iff (m : Int) :
    (ofMicros? m).isSome = true ↔ firstMicros ≤ m ∧ m ≤ lastMicros := by
  constructor
  · intro found
    by_contra outside
    rw [ofMicros?_of_outside (by omega)] at found
    contradiction
  · rintro ⟨first, last⟩
    obtain ⟨t, found, -⟩ := ofMicros?_of_within first last
    rw [found]
    rfl

end DateTime

end WalCheckpoint.Time
