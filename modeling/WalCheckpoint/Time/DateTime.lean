import WalCheckpoint.Time.Date

namespace WalCheckpoint.Time

/-! Instants: a date, a time of day and an offset from universal time. Without an offset
an instant is read as universal time. -/

/-- A time of day, to the microsecond. -/
structure Clock where
  hour : Nat
  minute : Nat
  second : Nat
  micro : Nat
  hour_lt : hour < 24
  minute_lt : minute < 60
  second_lt : second < 60
  micro_lt : micro < 1000000
  deriving DecidableEq

def microsPerDay : Nat := 86400000000

/-- An offset from universal time in microseconds, less than a day either way. -/
structure UtcOffset where
  micros : Int
  lower : -(microsPerDay : Int) < micros
  upper : micros < microsPerDay
  deriving DecidableEq

structure DateTime where
  date : Date
  clock : Clock
  offset : Option UtcOffset
  deriving DecidableEq

namespace Clock

def make? (hour minute second micro : Nat) : Option Clock :=
  if h : hour < 24 ∧ minute < 60 ∧ second < 60 ∧ micro < 1000000 then
    some ⟨hour, minute, second, micro, h.1, h.2.1, h.2.2.1, h.2.2.2⟩
  else none

def micros (c : Clock) : Nat :=
  ((c.hour * 60 + c.minute) * 60 + c.second) * 1000000 + c.micro

def ofMicros? (n : Nat) : Option Clock :=
  let seconds := n / 1000000
  make? (seconds / 3600) (seconds / 60 % 60) (seconds % 60) (n % 1000000)

def fraction (micro : Nat) : List Char :=
  if micro = 0 then [] else '.' :: Text.paddedDecimal 6 micro

def iso (c : Clock) : List Char :=
  Text.paddedDecimal 2 c.hour ++ ':' :: Text.paddedDecimal 2 c.minute ++
    ':' :: Text.paddedDecimal 2 c.second ++ fraction c.micro

end Clock

namespace UtcOffset

def make? (micros : Int) : Option UtcOffset :=
  if h : -(microsPerDay : Int) < micros ∧ micros < microsPerDay then
    some ⟨micros, h.1, h.2⟩
  else none

def utc : UtcOffset := ⟨0, by decide, by decide⟩

/-- Seconds and their fraction are written only where they are not zero. -/
def iso (o : UtcOffset) : List Char :=
  let n := o.micros.natAbs
  let seconds := n / 1000000
  let micro := n % 1000000
  let small :=
    if seconds % 60 = 0 ∧ micro = 0 then []
    else ':' :: Text.paddedDecimal 2 (seconds % 60) ++ Clock.fraction micro
  (if o.micros < 0 then '-' else '+') :: Text.paddedDecimal 2 (seconds / 3600) ++
    ':' :: Text.paddedDecimal 2 (seconds / 60 % 60) ++ small

end UtcOffset

namespace DateTime

/-- Microseconds from the first instant of the year one to the first of the year 1970. -/
def epochMicros : Nat := 62135596800000000

/-- Microseconds since the year one by the date and clock alone. -/
def localMicros (t : DateTime) : Nat :=
  t.date.ordinal * microsPerDay + t.clock.micros

/-- Microseconds since the start of 1970 in universal time. -/
def toMicros (t : DateTime) : Int :=
  (t.localMicros : Int) - epochMicros - (t.offset.elim 0 UtcOffset.micros)

def ofMicros? (micros : Int) : Option DateTime :=
  let elapsed := micros + epochMicros
  if elapsed < 0 then none
  else
    match Date.ofOrdinal? (elapsed.toNat / microsPerDay),
        Clock.ofMicros? (elapsed.toNat % microsPerDay) with
    | some date, some clock => some ⟨date, clock, some UtcOffset.utc⟩
    | _, _ => none

def iso (t : DateTime) : String :=
  String.ofList (t.date.iso ++ 'T' :: t.clock.iso ++ t.offset.elim [] UtcOffset.iso)

end DateTime

end WalCheckpoint.Time
