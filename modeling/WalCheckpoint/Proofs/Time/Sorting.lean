import WalCheckpoint.Proofs.Time.Elapsed

namespace WalCheckpoint.Time

open Text (precedes_paddedDecimal_append)

/-! The texts of instants sort as the instants follow each other, though a fraction of a second is
written only where there is one. -/

theorem Date.iso_precedes {d e : Date} {rest rest' : List Char}
    (earlier : d.Precedes e ∨ d = e ∧ Text.Precedes rest rest') :
    Text.Precedes (d.iso ++ rest) (e.iso ++ rest') := by
  rcases earlier with earlier | ⟨rfl, later⟩
  · obtain ⟨year, month, day⟩ := d.fits_width
    obtain ⟨year', month', day'⟩ := e.fits_width
    simp only [iso, List.append_assoc, List.cons_append]
    refine precedes_paddedDecimal_append (by decide) year year' (earlier.imp_right ?_)
    refine And.imp_right fun earlier => .cons ?_
    refine precedes_paddedDecimal_append (by decide) month month' (earlier.imp_right ?_)
    refine And.imp_right fun earlier => .cons ?_
    exact precedes_paddedDecimal_append (by decide) day day' (.inl earlier)
  · exact later.append_left d.iso

namespace Clock

/-- A mark that sorts before the point sorts whole seconds before what follows within them. -/
theorem fraction_precedes {micro micro' : Nat} {mark : Char} (rest rest' : List Char)
    (low : mark.toNat < '.'.toNat) (short : micro' < 10 ^ 6) (less : micro < micro') :
    Text.Precedes (fraction micro ++ mark :: rest) (fraction micro' ++ mark :: rest') := by
  rw [fraction, fraction, if_neg (Nat.ne_zero_of_lt less)]
  split
  · exact .rel low
  · have short' : micro < 10 ^ 6 := Nat.lt_trans less short
    exact .cons (precedes_paddedDecimal_append (by decide) short' short (.inl less))

theorem iso_precedes {c k : Clock} {mark : Char} (low : mark.toNat < '.'.toNat)
    (rest rest' : List Char) (earlier : c.Precedes k) :
    Text.Precedes (c.iso ++ mark :: rest) (k.iso ++ mark :: rest') := by
  obtain ⟨hour, minute, second⟩ := c.fits_width
  obtain ⟨hour', minute', second'⟩ := k.fits_width
  simp only [iso, List.append_assoc, List.cons_append]
  refine precedes_paddedDecimal_append (by decide) hour hour' (earlier.imp_right ?_)
  refine And.imp_right fun earlier => .cons ?_
  refine precedes_paddedDecimal_append (by decide) minute minute' (earlier.imp_right ?_)
  refine And.imp_right fun earlier => .cons ?_
  refine precedes_paddedDecimal_append (by decide) second second' (earlier.imp_right ?_)
  exact And.imp_right fun earlier => fraction_precedes rest rest' low k.micro_lt earlier

end Clock

namespace DateTime

theorem iso_precedes_of_utc {t u : DateTime} (utc : t.offset = some .utc)
    (utc' : u.offset = some .utc) (earlier : t.reading.Precedes u.reading) :
    Text.Precedes t.iso.toList u.iso.toList := by
  rw [toList_iso_of_utc utc, toList_iso_of_utc utc']
  refine Date.iso_precedes (earlier.imp_right ?_)
  exact And.imp_right fun earlier => .cons (Clock.iso_precedes (by decide) _ _ earlier)

theorem reading_precedes_of_utc {t u : DateTime} (utc : t.offset = some .utc)
    (utc' : u.offset = some .utc) (less : t.toMicros < u.toMicros) :
    t.reading.Precedes u.reading := by
  rw [toMicros_eq, toMicros_eq, ahead, ahead, utc, utc'] at less
  exact Reading.ranks.lt_iff.mp (by omega)

end DateTime

end WalCheckpoint.Time
