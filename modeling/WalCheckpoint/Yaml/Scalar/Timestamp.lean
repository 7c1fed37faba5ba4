import WalCheckpoint.Value
import WalCheckpoint.Yaml.Scalar.Number

namespace WalCheckpoint.Yaml.Timestamp

open Time

/-! Dates and instants among plain scalars. -/

def decimal (digits : List Char) : Nat :=
  Text.Numeral.ofDigits 10 (digits.filterMap Text.Numeral.decimalDigit?)

/-- A number of at least and at most so many digits. -/
def digits? (least most : Nat) (cs : List Char) : Option (Nat × List Char) :=
  let digits := (cs.take most).takeWhile Char.isDigit
  if least ≤ digits.length then
    some (decimal digits, cs.drop digits.length)
  else none

def mark? (mark : Char) : List Char → Option (List Char)
  | c :: rest => if c = mark then some rest else none
  | [] => none

structure Fields where
  year : Nat
  month : Nat
  day : Nat
  hour : Nat
  minute : Nat
  second : Nat
  micro : Nat
  offsetMinutes : Option Int
  deriving DecidableEq, Repr

/-- A date alone. Its month and its day have two digits at most. -/
def date? (least : Nat) (cs : List Char) : Option (Nat × Nat × Nat) := do
  let (year, cs) ← digits? 4 4 cs
  let cs ← mark? '-' cs
  let (month, cs) ← digits? least 2 cs
  let cs ← mark? '-' cs
  let (day, cs) ← digits? least 2 cs
  if cs.isEmpty then some (year, month, day) else none

def afterSeparator? : List Char → Option (List Char)
  | [] => none
  | c :: rest =>
      if c = 'T' ∨ c = 't' then some rest
      else if isSpaceOrTab c then some (rest.dropWhile isSpaceOrTab)
      else none

/-- Six digits of a fraction count. -/
def fraction (cs : List Char) : Nat × List Char :=
  match cs with
  | '.' :: rest =>
      let digits := rest.takeWhile Char.isDigit
      (decimal ((digits ++ List.replicate 6 '0').take 6),
        rest.dropWhile Char.isDigit)
  | _ => (0, cs)

def offsetDigits? (negative : Bool) (cs : List Char) : Option Int := do
  let (hours, cs) ← digits? 1 2 cs
  match cs with
  | [] => some (Text.Numeral.signed negative (hours * 60))
  | ':' :: cs => do
      let (minutes, cs) ← digits? 2 2 cs
      if cs.isEmpty then some (Text.Numeral.signed negative (hours * 60 + minutes)) else none
  | _ => none

def offset? (cs : List Char) : Option (Option Int) :=
  if cs.isEmpty then some none
  else
    match cs.dropWhile isSpaceOrTab with
    | ['Z'] => some (some 0)
    | '+' :: rest => (offsetDigits? false rest).map some
    | '-' :: rest => (offsetDigits? true rest).map some
    | _ => none

def instant? (cs : List Char) : Option Fields := do
  let (year, cs) ← digits? 4 4 cs
  let cs ← mark? '-' cs
  let (month, cs) ← digits? 1 2 cs
  let cs ← mark? '-' cs
  let (day, cs) ← digits? 1 2 cs
  let cs ← afterSeparator? cs
  let (hour, cs) ← digits? 1 2 cs
  let cs ← mark? ':' cs
  let (minute, cs) ← digits? 2 2 cs
  let cs ← mark? ':' cs
  let (second, cs) ← digits? 2 2 cs
  let (micro, cs) := fraction cs
  let offsetMinutes ← offset? cs
  some ⟨year, month, day, hour, minute, second, micro, offsetMinutes⟩

def dateValue (year month day : Nat) : Except Fault Value :=
  match Date.make? year month day with
  | some date => .ok (.date date)
  | none => .error .badDate

def Fields.value (f : Fields) : Except Fault Value :=
  match Date.make? f.year f.month f.day, Clock.make? f.hour f.minute f.second f.micro with
  | some date, some clock =>
      match f.offsetMinutes with
      | none => .ok (.dateTime ⟨date, clock, none⟩)
      | some minutes =>
          match UtcOffset.make? (minutes * 60000000) with
          | some offset => .ok (.dateTime ⟨date, clock, some offset⟩)
          | none => .error .badDate
  | _, _ => .error .badDate

/-- Whether a text is written as a date, with two digits for the month and for the day, or as an
instant. -/
def isOne (cs : List Char) : Bool :=
  (date? 2 cs).isSome || (instant? cs).isSome

/-- The value of a date or instant, which the calendar may lack. A line end may follow. -/
def read (cs : List Char) : Except Fault Value :=
  let cs := if cs.getLast? = some '\n' then cs.dropLast else cs
  match date? 1 cs, instant? cs with
  | some (year, month, day), _ => dateValue year month day
  | none, some fields => fields.value
  | none, none => .error .noTimestamp

end WalCheckpoint.Yaml.Timestamp
