import Mathlib.Order.Interval.Set.Nat
import WalCheckpoint.Proofs.Time.Calendar
import WalCheckpoint.Proofs.Time.Iso

namespace WalCheckpoint.Time

/-! Time as calendar and clock show it, counted one reading after another, and the microseconds
that stand for it. -/

/-- Numbers that grow along an order in which any two members can be compared. -/
structure Ranks (before : α → α → Prop) (rank : α → Nat) : Prop where
  grows : ∀ {x y}, before x y → rank x < rank y
  total : ∀ x y, before x y ∨ x = y ∨ before y x

namespace Ranks

variable {before : α → α → Prop} {rank : α → Nat}

theorem lt_iff (ranks : Ranks before rank) {x y : α} : rank x < rank y ↔ before x y := by
  refine ⟨fun less => ?_, ranks.grows⟩
  rcases ranks.total x y with earlier | same | later
  · exact earlier
  · subst same
    exact absurd less (Nat.lt_irrefl _)
  · exact absurd (ranks.grows later) (Nat.lt_asymm less)

theorem injective (ranks : Ranks before rank) : Function.Injective rank := by
  intro x y same
  rcases ranks.total x y with earlier | same | later
  · exact absurd same (Nat.ne_of_lt (ranks.grows earlier))
  · exact same
  · exact absurd same (Nat.ne_of_gt (ranks.grows later))

/-- Where no number is left out, the numbers tell how many members lie between two. -/
theorem ncard_between (ranks : Ranks before rank) {x y : α}
    (reached : ∀ n < rank y, ∃ z, rank z = n) :
    {z | ¬ before z x ∧ before z y}.ncard = rank y - rank x := by
  have image : rank '' {z | ¬ before z x ∧ before z y} = Set.Ico (rank x) (rank y) := by
    ext n
    constructor
    · rintro ⟨z, ⟨notBefore, earlier⟩, rfl⟩
      exact ⟨Nat.le_of_not_lt fun less => notBefore (ranks.lt_iff.mp less), ranks.grows earlier⟩
    · rintro ⟨least, less⟩
      obtain ⟨z, rfl⟩ := reached n less
      exact ⟨z, ⟨fun earlier => Nat.not_lt.mpr least (ranks.grows earlier), ranks.lt_iff.mp less⟩, rfl⟩
  rw [← Set.ncard_image_of_injective _ ranks.injective, image, Set.ncard_Ico_nat]

end Ranks

namespace Date

/-- Dates follow each other by the year, then the month, then the day. -/
def Precedes (d e : Date) : Prop :=
  d.year < e.year ∨ d.year = e.year ∧
    (d.month < e.month ∨ d.month = e.month ∧ d.day < e.day)

/-- A month begins where the one before it ends. -/
theorem monthStart_succ (year : Nat) {month : Nat} (positive : 0 < month) :
    monthStart year (month + 1) = monthStart year month + daysInMonth year month := by
  obtain ⟨complete, rfl⟩ := Nat.exists_eq_add_of_lt positive
  rw [Nat.zero_add]
  simp only [monthStart, daysInMonth, Nat.add_sub_cancel, ← List.sum_eq_foldl]
  rw [List.take_add_one, List.sum_append, List.getD_eq_getElem?_getD]
  cases (monthLengths year)[complete]? <;> simp

theorem monthStart_mono (year : Nat) : Monotone (monthStart year) := by
  apply monotone_nat_of_le_succ
  intro month
  rcases Nat.eq_zero_or_pos month with rfl | positive
  · exact Nat.le_refl _
  · exact Nat.le.intro (monthStart_succ year positive).symm

theorem monthStart_end (year : Nat) : monthStart year 13 = (monthLengths year).sum := by
  rw [monthStart, ← List.sum_eq_foldl]
  rfl

/-- A day lies within its month. -/
theorem dayOfYear_lt (d : Date) :
    monthStart d.year d.month + (d.day - 1) < monthStart d.year (d.month + 1) := by
  have next := monthStart_succ d.year d.month_pos
  have first := d.day_pos
  have last := d.day_le
  omega

/-- A day lies within its year. -/
theorem ordinal_lt_yearStart (d : Date) : d.ordinal < yearStart (d.year + 1) := by
  have day := d.dayOfYear_lt
  have month : monthStart d.year (d.month + 1) ≤ monthStart d.year 13 :=
    monthStart_mono d.year (Nat.succ_le_succ d.month_le)
  have year := yearStart_succ d.year_pos
  rw [monthStart_end] at month
  rw [ordinal]
  omega

theorem ordinal_lt_dayCount (d : Date) : d.ordinal < dayCount := by
  have within := d.ordinal_lt_yearStart
  have year : yearStart (d.year + 1) ≤ yearStart (lastYear + 1) :=
    yearStart_mono (Nat.succ_le_succ d.year_le)
  have count : yearStart (lastYear + 1) = dayCount := by decide
  omega

theorem ordinal_lt_of_precedes {d e : Date} (earlier : d.Precedes e) : d.ordinal < e.ordinal := by
  rcases earlier with year | ⟨year, month | ⟨month, day⟩⟩
  · have within := d.ordinal_lt_yearStart
    have begun : yearStart (d.year + 1) ≤ yearStart e.year := yearStart_mono year
    rw [ordinal, ordinal] at *
    omega
  · have within := d.dayOfYear_lt
    have begun : monthStart d.year (d.month + 1) ≤ monthStart d.year e.month :=
      monthStart_mono d.year month
    rw [ordinal, ordinal, ← year]
    omega
  · have first := d.day_pos
    rw [ordinal, ordinal, ← year, ← month]
    omega

theorem precedes_total (d e : Date) : d.Precedes e ∨ d = e ∨ e.Precedes d := by
  rcases Nat.lt_trichotomy d.year e.year with year | year | year
  · exact .inl (.inl year)
  · rcases Nat.lt_trichotomy d.month e.month with month | month | month
    · exact .inl (.inr ⟨year, .inl month⟩)
    · rcases Nat.lt_trichotomy d.day e.day with day | day | day
      · exact .inl (.inr ⟨year, .inr ⟨month, day⟩⟩)
      · right
        left
        cases d
        cases e
        cases year
        cases month
        cases day
        rfl
      · exact .inr (.inr (.inr ⟨year.symm, .inr ⟨month.symm, day⟩⟩))
    · exact .inr (.inr (.inr ⟨year.symm, .inl month⟩))
  · exact .inr (.inr (.inl year))

theorem ranks : Ranks Precedes ordinal := ⟨ordinal_lt_of_precedes, precedes_total⟩

end Date

namespace Clock

/-- Times of day follow each other by the hour, then the minute, the second and the microsecond. -/
def Precedes (c k : Clock) : Prop :=
  c.hour < k.hour ∨ c.hour = k.hour ∧
    (c.minute < k.minute ∨ c.minute = k.minute ∧
      (c.second < k.second ∨ c.second = k.second ∧ c.micro < k.micro))

theorem micros_lt (c : Clock) : c.micros < microsPerDay := by
  have hour := c.hour_lt
  have minute := c.minute_lt
  have second := c.second_lt
  have micro := c.micro_lt
  rw [micros, microsPerDay]
  omega

theorem micros_lt_of_precedes {c k : Clock} (earlier : c.Precedes k) : c.micros < k.micros := by
  have minute := c.minute_lt
  have second := c.second_lt
  have micro := c.micro_lt
  rw [micros, micros]
  rw [Precedes] at earlier
  omega

theorem precedes_total (c k : Clock) : c.Precedes k ∨ c = k ∨ k.Precedes c := by
  by_cases same : c.hour = k.hour ∧ c.minute = k.minute ∧ c.second = k.second ∧ c.micro = k.micro
  · obtain ⟨hour, minute, second, micro⟩ := same
    right
    left
    cases c
    cases k
    cases hour
    cases minute
    cases second
    cases micro
    rfl
  · rw [Precedes, Precedes]
    omega

theorem ranks : Ranks Precedes micros := ⟨micros_lt_of_precedes, precedes_total⟩

end Clock

/-- What calendar and clock show. -/
structure Reading where
  date : Date
  clock : Clock

namespace Reading

def Precedes (r s : Reading) : Prop :=
  r.date.Precedes s.date ∨ r.date = s.date ∧ r.clock.Precedes s.clock

/-- The microseconds from one reading to another: one for each reading that is passed, taken
negative where the way goes back. -/
noncomputable def elapsed (r s : Reading) : Int :=
  ({x : Reading | ¬ x.Precedes r ∧ x.Precedes s}.ncard : Int) -
    {x : Reading | ¬ x.Precedes s ∧ x.Precedes r}.ncard

def micros (r : Reading) : Nat :=
  r.date.ordinal * microsPerDay + r.clock.micros

theorem micros_lt_of_precedes {r s : Reading} (earlier : r.Precedes s) : r.micros < s.micros := by
  rw [micros, micros]
  rcases earlier with date | ⟨date, clock⟩
  · have days : (r.date.ordinal + 1) * microsPerDay ≤ s.date.ordinal * microsPerDay :=
      Nat.mul_le_mul_right microsPerDay (Date.ranks.grows date)
    have time := r.clock.micros_lt
    rw [Nat.succ_mul] at days
    omega
  · rw [date]
    exact Nat.add_lt_add_left (Clock.ranks.grows clock) _

theorem precedes_total (r s : Reading) : r.Precedes s ∨ r = s ∨ s.Precedes r := by
  obtain ⟨date, clock⟩ := r
  obtain ⟨date', clock'⟩ := s
  rcases Date.ranks.total date date' with earlier | rfl | later
  · exact .inl (.inl earlier)
  · rcases Clock.ranks.total clock clock' with earlier | rfl | later
    · exact .inl (.inr ⟨rfl, earlier⟩)
    · exact .inr (.inl rfl)
    · exact .inr (.inr (.inr ⟨rfl, later⟩))
  · exact .inr (.inr (.inl later))

theorem ranks : Ranks Precedes micros := ⟨micros_lt_of_precedes, precedes_total⟩

theorem micros_lt (r : Reading) : r.micros < Date.dayCount * microsPerDay := by
  have days : (r.date.ordinal + 1) * microsPerDay ≤ Date.dayCount * microsPerDay :=
    Nat.mul_le_mul_right microsPerDay r.date.ordinal_lt_dayCount
  have time := r.clock.micros_lt
  rw [Nat.succ_mul] at days
  rw [micros]
  omega

theorem exists_micros {n : Nat} (within : n < Date.dayCount * microsPerDay) :
    ∃ r : Reading, r.micros = n := by
  have proper : 0 < microsPerDay := by decide
  obtain ⟨date, -, day⟩ := Date.ofOrdinal?_of_lt (Nat.div_lt_of_lt_mul (Nat.mul_comm .. ▸ within))
  obtain ⟨clock, -, time⟩ := Clock.ofMicros?_of_lt (Nat.mod_lt n proper)
  exact ⟨⟨date, clock⟩, by rw [micros, day, time, Nat.div_add_mod']⟩

theorem elapsed_eq (r s : Reading) : r.elapsed s = s.micros - r.micros := by
  have reached (t : Reading) : ∀ n < t.micros, ∃ z : Reading, z.micros = n :=
    fun n less => exists_micros (Nat.lt_trans less t.micros_lt)
  rw [elapsed, ranks.ncard_between (reached s), ranks.ncard_between (reached r)]
  omega

end Reading

namespace DateTime

def reading (t : DateTime) : Reading := ⟨t.date, t.clock⟩

/-- How far calendar and clock are ahead of universal time. -/
def ahead (t : DateTime) : Int := t.offset.elim 0 UtcOffset.micros

/-- The time from one instant to another: what calendar and clock moved on, without what they were
set ahead. -/
noncomputable def timeTo (t u : DateTime) : Int :=
  t.reading.elapsed u.reading - (u.ahead - t.ahead)

/-- The start of the year 1970 in universal time. -/
def epoch : DateTime where
  date := ⟨1970, 1, 1, by decide, by decide, by decide, by decide, by decide, by decide⟩
  clock := ⟨0, 0, 0, 0, by decide, by decide, by decide, by decide⟩
  offset := some .utc

theorem toMicros_eq (t : DateTime) : t.toMicros = t.reading.micros - epochMicros - t.ahead := rfl

theorem timeTo_eq (t u : DateTime) : t.timeTo u = u.toMicros - t.toMicros := by
  rw [timeTo, Reading.elapsed_eq, toMicros_eq, toMicros_eq]
  omega

theorem epoch_timeTo (t : DateTime) : epoch.timeTo t = t.toMicros := by
  have zero : epoch.toMicros = 0 := by decide
  rw [timeTo_eq, zero, Int.sub_zero]

/-- An instant of universal time is known by its number. -/
theorem eq_of_toMicros {t u : DateTime} (utc : t.offset = some .utc) (utc' : u.offset = some .utc)
    (same : t.toMicros = u.toMicros) : t = u := by
  have readings : t.reading = u.reading := by
    apply Reading.ranks.injective
    rw [toMicros_eq, toMicros_eq, ahead, ahead, utc, utc'] at same
    omega
  obtain ⟨date, clock, offset⟩ := t
  obtain ⟨date', clock', offset'⟩ := u
  obtain ⟨rfl, rfl⟩ := Reading.mk.inj readings
  exact congrArg _ (utc.trans utc'.symm)

theorem within_of_utc {t : DateTime} (utc : t.offset = some .utc) :
    firstMicros ≤ t.toMicros ∧ t.toMicros ≤ lastMicros := by
  have count : Date.dayCount * microsPerDay = 315537897600000000 := rfl
  have epoch : (epochMicros : Int) = 62135596800000000 := rfl
  have least := t.reading.micros_lt
  have level : t.ahead = 0 := by rw [ahead, utc]; rfl
  rw [toMicros_eq, level, firstMicros, lastMicros]
  omega

theorem ofMicros?_eq_some_iff {m : Int} {t : DateTime} :
    ofMicros? m = some t ↔ t.offset = some .utc ∧ t.toMicros = m := by
  constructor
  · intro held
    have within := (ofMicros?_isSome_iff m).mp (Option.isSome_of_mem held)
    obtain ⟨u, held', told⟩ := ofMicros?_of_within within.1 within.2
    obtain rfl := Option.some.inj (held.symm.trans held')
    exact ⟨ofMicros?_offset held, told⟩
  · rintro ⟨utc, rfl⟩
    obtain ⟨first, last⟩ := within_of_utc utc
    obtain ⟨u, held, told⟩ := ofMicros?_of_within first last
    rw [held, eq_of_toMicros (ofMicros?_offset held) utc told]

/-- The number of an instant is the time to it from the start of 1970, and the numbers of any two
instants compare as the instants follow each other. The numbers from the start of the year 1 to the
end of the year 9999, and no others, go back to an instant: to the one of universal time that has
the number. So an instant given with an offset comes back in universal time where it has a date
there, and otherwise not at all. -/
theorem toMicros_exact (t u : DateTime) (m : Int) :
    t.toMicros = epoch.timeTo t ∧
    (t.toMicros < u.toMicros ↔ 0 < t.timeTo u) ∧
    (t.toMicros = u.toMicros ↔ t.timeTo u = 0) ∧
    ((ofMicros? m).isSome = true ↔ -62135596800000000 ≤ m ∧ m ≤ 253402300799999999) ∧
    (ofMicros? m = some u ↔ u.offset = some .utc ∧ u.toMicros = m) ∧
    (ofMicros? t.toMicros = some u ↔ u.offset = some .utc ∧ t.timeTo u = 0) ∧
    ((ofMicros? t.toMicros).isSome = true ↔
      ∃ v : DateTime, v.offset = some .utc ∧ t.timeTo v = 0) := by
  have sameInstant (v : DateTime) :
      ofMicros? t.toMicros = some v ↔ v.offset = some .utc ∧ t.timeTo v = 0 := by
    rw [ofMicros?_eq_some_iff, timeTo_eq, Int.sub_eq_zero]
  refine ⟨(epoch_timeTo t).symm, ?_, ?_, ofMicros?_isSome_iff m, ofMicros?_eq_some_iff,
    sameInstant u, ?_⟩
  · rw [timeTo_eq, Int.sub_pos]
  · rw [timeTo_eq, Int.sub_eq_zero]
    exact eq_comm
  · rw [Option.isSome_iff_exists]
    exact exists_congr sameInstant

/-- The first midnight, an hour ahead of universal time, is before the first year there. -/
example :
    let t : DateTime :=
      ⟨⟨1, 1, 1, by decide, by decide, by decide, by decide, by decide, by decide⟩,
        ⟨0, 0, 0, 0, by decide, by decide, by decide, by decide⟩,
        some ⟨3600000000, by decide, by decide⟩⟩
    t.toMicros = -62135600400000000 ∧ ofMicros? t.toMicros = none := by
  decide

end DateTime

end WalCheckpoint.Time
