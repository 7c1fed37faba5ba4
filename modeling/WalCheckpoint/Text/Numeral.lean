import WalCheckpoint.Text.Blank
import WalCheckpoint.Text.Digit

namespace WalCheckpoint.Text.Numeral

/-! Whole numbers as text: an optional sign and digits, in which single underscores may
stand between two digits. Digits and spaces of any script count. -/

/-- Decimal numerals beyond this many digits are neither read nor written. -/
def digitLimit : Nat := 4300

/-- A character that stands for the same digit or space in ASCII; characters that stand
for neither become a character no numeral contains. -/
def plainChar (c : Char) : Char :=
  if c.toNat < 127 then c
  else if isBlank c then ' '
  else
    match digitValue? c with
    | some value => Char.ofNat (48 + value)
    | none => '?'

def decimalDigit? (c : Char) : Option Nat :=
  if c.isDigit then some (c.toNat - 48) else none

def hexDigit? (c : Char) : Option Nat :=
  if c.isDigit then some (c.toNat - 48)
  else if 'a' ≤ c && c ≤ 'f' then some (c.toNat - 87)
  else if 'A' ≤ c && c ≤ 'F' then some (c.toNat - 55)
  else none

/-- One or more digits; an underscore is skipped where a digit follows it. -/
def digits? (digit? : Char → Option Nat) : List Char → Option (List Nat)
  | [] => none
  | c :: rest =>
      match digit? c with
      | none => none
      | some digit =>
          match rest with
          | [] => some [digit]
          | '_' :: more => (digits? digit? more).map (digit :: ·)
          | next :: more => (digits? digit? (next :: more)).map (digit :: ·)

def ofDigits (base : Nat) (digits : List Nat) : Nat :=
  digits.foldl (fun value digit => value * base + digit) 0

/-- Splits a leading sign off; `true` is negative. -/
def splitSign : List Char → Bool × List Char
  | '-' :: rest => (true, rest)
  | '+' :: rest => (false, rest)
  | cs => (false, cs)

def signed (negative : Bool) (magnitude : Nat) : Int :=
  if negative then -(magnitude : Int) else magnitude

def baseMark? : Nat → Option Char
  | 2 => some 'b'
  | 8 => some 'o'
  | 16 => some 'x'
  | _ => none

def dropBaseMark (base : Nat) : List Char → List Char
  | '0' :: mark :: rest =>
      if some mark.toLower = baseMark? base then
        match rest with
        | '_' :: more => more
        | more => more
      else '0' :: mark :: rest
  | cs => cs

def digitBelow? (base : Nat) (c : Char) : Option Nat :=
  (hexDigit? c).filter fun digit => digit < base

/-- A numeral to a base up to sixteen, with or without the mark of the base. -/
def inBase? (base : Nat) (cs : List Char) : Option Int :=
  let (negative, body) := splitSign (trimBy isAsciiBlank (cs.map plainChar))
  match digits? (digitBelow? base) (dropBaseMark base body) with
  | none => none
  | some digits =>
      if base = 10 ∧ digitLimit < digits.length then none
      else some (signed negative (ofDigits base digits))

def decimal? : List Char → Option Int :=
  inBase? 10

def hexadecimal? : List Char → Option Int :=
  inBase? 16

def write? (n : Int) : Option String :=
  if n.natAbs < Nat.pow 10 digitLimit then some (toString n) else none

def upperHex (n : Nat) : List Char :=
  (Nat.toDigits 16 n).map Char.toUpper

end WalCheckpoint.Text.Numeral
