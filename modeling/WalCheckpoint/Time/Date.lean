import WalCheckpoint.Text.Padded

namespace WalCheckpoint.Time

/-! Dates of the proleptic Gregorian calendar, counted in days from the first day of the
year one. -/

def isLeap (year : Nat) : Bool :=
  year % 4 = 0 ∧ (year % 100 ≠ 0 ∨ year % 400 = 0)

def monthLengths (year : Nat) : List Nat :=
  [31, if isLeap year then 29 else 28, 31, 30, 31, 30, 31, 31, 30, 31, 30, 31]

def daysInMonth (year month : Nat) : Nat :=
  (monthLengths year).getD (month - 1) 0

def lastYear : Nat := 9999

structure Date where
  year : Nat
  month : Nat
  day : Nat
  year_pos : 0 < year
  year_le : year ≤ lastYear
  month_pos : 0 < month
  month_le : month ≤ 12
  day_pos : 0 < day
  day_le : day ≤ daysInMonth year month
  deriving DecidableEq

namespace Date

def make? (year month day : Nat) : Option Date :=
  if h : 0 < year ∧ year ≤ lastYear ∧ 0 < month ∧ month ≤ 12 ∧ 0 < day ∧
      day ≤ daysInMonth year month then
    some ⟨year, month, day, h.1, h.2.1, h.2.2.1, h.2.2.2.1, h.2.2.2.2.1, h.2.2.2.2.2⟩
  else none

def yearStart (year : Nat) : Nat :=
  let complete := year - 1
  365 * complete + complete / 4 - complete / 100 + complete / 400

def monthStart (year month : Nat) : Nat :=
  ((monthLengths year).take (month - 1)).foldl (· + ·) 0

def ordinal (d : Date) : Nat :=
  yearStart d.year + monthStart d.year d.month + (d.day - 1)

/-- The year in which a day lies: an estimate by the mean length of a year, mended by at
most one. -/
def yearOfOrdinal (n : Nat) : Nat :=
  let estimate := n * 400 / 146097 + 1
  if n < yearStart estimate then estimate - 1
  else if yearStart (estimate + 1) ≤ n then estimate + 1
  else estimate

/-- Splits a day of a year into the month, counted from the given one, and the day of that
month. -/
def splitMonths (lengths : List Nat) (month day : Nat) : Nat × Nat :=
  match lengths with
  | [] => (month, day + 1)
  | length :: rest =>
      if day < length then (month, day + 1)
      else splitMonths rest (month + 1) (day - length)

def ofOrdinal? (n : Nat) : Option Date :=
  let year := yearOfOrdinal n
  let (month, day) := splitMonths (monthLengths year) 1 (n - yearStart year)
  make? year month day

def iso (d : Date) : List Char :=
  Text.paddedDecimal 4 d.year ++ '-' :: Text.paddedDecimal 2 d.month ++
    '-' :: Text.paddedDecimal 2 d.day

instance : Repr Date where
  reprPrec d _ := Std.Format.text (String.ofList d.iso)

end Date

end WalCheckpoint.Time
