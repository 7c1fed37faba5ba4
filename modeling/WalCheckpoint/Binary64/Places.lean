import WalCheckpoint.Binary64.Shortest

namespace WalCheckpoint.Binary64

/-! Floating-point numbers with a given number of digits, rounded to the nearest such number. -/

/-- Which digits are given: those after the point, those after the first one in front of a power of
ten, or all of them, in whichever of these two ways is shorter. -/
inductive Style where
  | fixed
  | scientific
  | general
  deriving DecidableEq, Repr

def roundScaled (numerator denominator : Nat) (power : Int) : Nat :=
  if power < 0 then roundHalfEven numerator (denominator * Nat.pow 10 power.natAbs)
  else roundHalfEven (numerator * Nat.pow 10 power.natAbs) denominator

def withPoint (places : Nat) (keepsPoint : Bool) (n : Nat) : List Char :=
  let digits := Text.paddedDecimal (places + 1) n
  let point := if places = 0 ∧ !keepsPoint then [] else ['.']
  digits.take (digits.length - places) ++ point ++ digits.drop (digits.length - places)

def fixedText (numerator denominator places : Nat) (keepsPoint : Bool) : List Char :=
  withPoint places keepsPoint (roundScaled numerator denominator places)

def leadingDigits (numerator denominator places : Nat) : Int × Nat :=
  if numerator = 0 then (0, 0)
  else
    let power := decimalPlace numerator denominator - 1
    let digits := roundScaled numerator denominator (places - power)
    if digits < Nat.pow 10 (places + 1) then (power, digits)
    else (power + 1, Nat.pow 10 places)

def powerText (power : Int) : List Char :=
  ['e', if power < 0 then '-' else '+'] ++ Text.paddedDecimal 2 power.natAbs

def dropTrailing (dropped : Char) (cs : List Char) : List Char :=
  (cs.reverse.dropWhile (· = dropped)).reverse

/-- Zeros at the end, after a point, say nothing. -/
def trimZeros (cs : List Char) : List Char :=
  if cs.contains '.' then dropTrailing '.' (dropTrailing '0' cs) else cs

/-- The text of a fraction. Where the point is kept, so are zeros at the end. -/
def styled (style : Style) (places : Nat) (keepsPoint : Bool) (numerator denominator : Nat) :
    List Char :=
  match style with
  | .fixed => fixedText numerator denominator places keepsPoint
  | .scientific =>
      let (power, digits) := leadingDigits numerator denominator places
      withPoint places keepsPoint digits ++ powerText power
  | .general =>
      let places := places - 1
      let (power, digits) := leadingDigits numerator denominator places
      let trim (cs : List Char) : List Char := if keepsPoint then cs else trimZeros cs
      if -4 ≤ power ∧ power ≤ places then
        trim (fixedText numerator denominator (places - power).toNat keepsPoint)
      else trim (withPoint places keepsPoint digits) ++ powerText power

def writeStyled (style : Style) (places : Nat) (keepsPoint : Bool) (x : Binary64) : List Char :=
  match x.form with
  | .nan => "nan".toList
  | .infinite false => "inf".toList
  | .infinite true => "-inf".toList
  | .finite negative mantissa exponent =>
      let (numerator, denominator) := scale mantissa 1 (-exponent)
      let text := styled style places keepsPoint numerator denominator
      if negative then '-' :: text else text

end WalCheckpoint.Binary64
