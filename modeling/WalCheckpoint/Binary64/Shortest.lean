import WalCheckpoint.Binary64
import WalCheckpoint.Text.Padded

namespace WalCheckpoint.Binary64

/-! The fewest decimal digits that read back as a number, and their text. -/

/-- `digits * 10 ^ exponent`. -/
structure Decimal where
  digits : Nat
  exponent : Int
  deriving DecidableEq, Repr

namespace Decimal

/-- Moves zeros at the end of the digits into the exponent. -/
def trimZeros (fuel : Nat) (x : Decimal) : Decimal :=
  match fuel with
  | 0 => x
  | fuel + 1 =>
      if x.digits % 10 = 0 ∧ x.digits ≠ 0 then
        trimZeros fuel ⟨x.digits / 10, x.exponent + 1⟩
      else x

end Decimal

def leadingZeros (fuel : Nat) (numerator denominator : Nat) : Nat :=
  match fuel with
  | 0 => 0
  | fuel + 1 =>
      if denominator ≤ numerator then 0
      else leadingZeros fuel (numerator * 10) denominator + 1

/-- The place of the decimal point: the fraction lies between `10 ^ (place - 1)` and
`10 ^ place`. -/
def decimalPlace (numerator denominator : Nat) : Int :=
  if denominator ≤ numerator then
    ((Nat.toDigits 10 (numerator / denominator)).length : Int)
  else
    1 - (leadingZeros 400 numerator denominator : Int)

def decimalScale (numerator denominator : Nat) (exponent : Int) : Nat × Nat :=
  if exponent < 0 then (numerator * Nat.pow 10 exponent.natAbs, denominator)
  else (numerator, denominator * Nat.pow 10 exponent.natAbs)

/-- The neighbour on the grid of multiples of `10 ^ exponent` that reads back as `x`; of
two such neighbours the nearer one. -/
def neighbour? (x : Binary64) (numerator denominator : Nat) (exponent : Int) :
    Option Decimal :=
  let (n, d) := decimalScale numerator denominator exponent
  let low := n / d
  let readsBack (digits : Nat) : Bool := ofDecimal false digits exponent == x
  match readsBack low, readsBack (low + 1) with
  | true, true => some ⟨roundHalfEven n d, exponent⟩
  | true, false => some ⟨low, exponent⟩
  | false, true => some ⟨low + 1, exponent⟩
  | false, false => none

def shortestFrom (x : Binary64) (numerator denominator : Nat) (place : Int) :
    (count fuel : Nat) → Decimal
  | _, 0 => ⟨0, 0⟩
  | count, fuel + 1 =>
      match neighbour? x numerator denominator (place - count) with
      | some decimal => decimal
      | none => shortestFrom x numerator denominator place (count + 1) fuel

def shortest (x : Binary64) : Decimal :=
  match x.ratio? with
  | some (n, d) =>
      let decimal := shortestFrom x n.natAbs d (decimalPlace n.natAbs d) 1 17
      decimal.trimZeros 400
  | none => ⟨0, 0⟩

/-- Numbers from `10 ^ -4` up to `10 ^ 16` are written positionally, with at least one
digit after the point; the exponent of any other has a sign and at least two digits. -/
def decimalText (decimal : Decimal) : List Char :=
  let digits := Nat.toDigits 10 decimal.digits
  let place : Int := digits.length + decimal.exponent
  if -4 < place ∧ place ≤ 16 then
    if place ≤ 0 then '0' :: '.' :: List.replicate place.natAbs '0' ++ digits
    else if decimal.exponent < 0 then
      digits.take place.natAbs ++ '.' :: digits.drop place.natAbs
    else digits ++ List.replicate decimal.exponent.natAbs '0' ++ ['.', '0']
  else
    let power := place - 1
    let mantissa :=
      match digits with
      | [digit] => [digit]
      | digit :: rest => digit :: '.' :: rest
      | [] => []
    mantissa ++ ['e', if power < 0 then '-' else '+'] ++
      Text.paddedDecimal 2 power.natAbs

structure Spelling where
  nan : String
  infinity : String

def write (spelling : Spelling) (x : Binary64) : String :=
  match x.form with
  | .nan => spelling.nan
  | .infinite false => spelling.infinity
  | .infinite true => "-" ++ spelling.infinity
  | .finite negative mantissa _ =>
      let body :=
        if mantissa = 0 then ['0', '.', '0']
        else decimalText (ofMagnitude false (x.bits.toNat % signSize)).shortest
      String.ofList (if negative then '-' :: body else body)

end WalCheckpoint.Binary64
