import WalCheckpoint.Proofs.Text.Padded
import WalCheckpoint.Time.DateTime

namespace WalCheckpoint

/-! The text of an instant tells the instant: no two instants of universal time have one text. -/

namespace Time

theorem Date.daysInMonth_le (year month : Nat) : daysInMonth year month ≤ 31 := by
  rw [daysInMonth, List.getD_eq_getElem?_getD]
  cases day : (monthLengths year)[month - 1]? with
  | none => exact Nat.zero_le 31
  | some length =>
      have member := List.mem_of_getElem? day
      have longest : ∀ length ∈ monthLengths year, length ≤ 31 := by
        cases leap : isLeap year <;> simp [monthLengths, leap]
      exact longest length member

theorem Date.fits_width (d : Date) : d.year < 10 ^ 4 ∧ d.month < 10 ^ 2 ∧ d.day < 10 ^ 2 := by
  have longest := daysInMonth_le d.year d.month
  have year := d.year_le
  have month := d.month_le
  have day := d.day_le
  rw [lastYear] at year
  omega

theorem Date.iso_append_inj {d d' : Date} {rest rest' : List Char}
    (same : d.iso ++ rest = d'.iso ++ rest') : d = d' ∧ rest = rest' := by
  obtain ⟨year, month, day⟩ := d.fits_width
  obtain ⟨year', month', day'⟩ := d'.fits_width
  simp only [iso, List.append_assoc, List.cons_append] at same
  obtain ⟨years, months⟩ := Text.paddedDecimal_append_inj (by decide) year year' same
  obtain ⟨months, days⟩ :=
    Text.paddedDecimal_append_inj (by decide) month month' (List.tail_eq_of_cons_eq months)
  obtain ⟨days, rests⟩ :=
    Text.paddedDecimal_append_inj (by decide) day day' (List.tail_eq_of_cons_eq days)
  refine ⟨?_, rests⟩
  cases d
  cases d'
  cases years
  cases months
  cases days
  rfl

/-- A fraction of a second is read up to a mark that is no point. -/
theorem Clock.fraction_append_inj {micro micro' : Nat} {c c' : Char} {rest rest' : List Char}
    (short : micro < 10 ^ 6) (short' : micro' < 10 ^ 6) (mark : c ≠ '.') (mark' : c' ≠ '.')
    (same : fraction micro ++ c :: rest = fraction micro' ++ c' :: rest') :
    micro = micro' ∧ c :: rest = c' :: rest' := by
  rw [fraction, fraction] at same
  split at same
  · next zero =>
      split at same
      · next zero' => exact ⟨zero.trans zero'.symm, same⟩
      · exact absurd (List.head_eq_of_cons_eq same) mark
  · split at same
    · exact absurd (List.head_eq_of_cons_eq same).symm mark'
    · exact Text.paddedDecimal_append_inj (by decide) short short'
        (List.tail_eq_of_cons_eq same)

theorem Clock.fits_width (k : Clock) : k.hour < 10 ^ 2 ∧ k.minute < 10 ^ 2 ∧ k.second < 10 ^ 2 := by
  have hour := k.hour_lt
  have minute := k.minute_lt
  have second := k.second_lt
  omega

theorem Clock.iso_append_inj {k k' : Clock} {c c' : Char} {rest rest' : List Char}
    (mark : c ≠ '.') (mark' : c' ≠ '.')
    (same : k.iso ++ c :: rest = k'.iso ++ c' :: rest') : k = k' ∧ c :: rest = c' :: rest' := by
  obtain ⟨hour, minute, second⟩ := k.fits_width
  obtain ⟨hour', minute', second'⟩ := k'.fits_width
  simp only [iso, List.append_assoc, List.cons_append] at same
  obtain ⟨hours, minutes⟩ := Text.paddedDecimal_append_inj (by decide) hour hour' same
  obtain ⟨minutes, seconds⟩ :=
    Text.paddedDecimal_append_inj (by decide) minute minute' (List.tail_eq_of_cons_eq minutes)
  obtain ⟨seconds, micros⟩ :=
    Text.paddedDecimal_append_inj (by decide) second second' (List.tail_eq_of_cons_eq seconds)
  obtain ⟨micros, rests⟩ := fraction_append_inj k.micro_lt k'.micro_lt mark mark' micros
  refine ⟨?_, rests⟩
  cases k
  cases k'
  cases hours
  cases minutes
  cases seconds
  cases micros
  rfl

namespace DateTime

theorem toList_iso_of_utc {t : DateTime} (utc : t.offset = some .utc) :
    t.iso.toList = t.date.iso ++ 'T' :: (t.clock.iso ++ '+' :: ['0', '0', ':', '0', '0']) := by
  have zone : UtcOffset.iso .utc = ['+', '0', '0', ':', '0', '0'] := by decide
  rw [iso, String.toList_ofList, utc, Option.elim_some, zone, List.append_assoc, List.cons_append]

theorem iso_injective_of_utc {t t' : DateTime} (utc : t.offset = some .utc)
    (utc' : t'.offset = some .utc) (same : t.iso = t'.iso) : t = t' := by
  rw [← String.toList_inj, toList_iso_of_utc utc, toList_iso_of_utc utc'] at same
  obtain ⟨date, clock, offset⟩ := t
  obtain ⟨date', clock', offset'⟩ := t'
  obtain rfl : offset = some .utc := utc
  obtain rfl : offset' = some .utc := utc'
  obtain ⟨rfl, times⟩ := Date.iso_append_inj same
  obtain ⟨rfl, -⟩ := Clock.iso_append_inj (by decide) (by decide) (List.tail_eq_of_cons_eq times)
  rfl

theorem ofMicros?_offset {m : Int} {t : DateTime} (found : ofMicros? m = some t) :
    t.offset = some .utc := by
  rw [ofMicros?] at found
  split at found
  · contradiction
  · split at found
    · exact Option.some.inj found ▸ rfl
    · contradiction

end DateTime

end Time

end WalCheckpoint
