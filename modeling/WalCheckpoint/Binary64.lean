namespace WalCheckpoint

/-! Binary floating-point numbers of 64 bits, read and made by exact arithmetic. -/

structure Binary64 where
  bits : UInt64
  deriving DecidableEq, Repr, Inhabited

namespace Binary64

def signSize : Nat := 0x8000000000000000

def fractionSize : Nat := 0x10000000000000

/-- What the bits stand for: a finite number is `± mantissa * 2 ^ exponent`. -/
inductive Form where
  | nan
  | infinite (negative : Bool)
  | finite (negative : Bool) (mantissa : Nat) (exponent : Int)
  deriving DecidableEq, Repr

def form (x : Binary64) : Form :=
  let raw := x.bits.toNat
  let negative : Bool := signSize ≤ raw
  let field : Nat := raw / fractionSize % 2048
  let fraction := raw % fractionSize
  if field = 2047 then
    if fraction = 0 then .infinite negative else .nan
  else if field = 0 then .finite negative fraction (-1074)
  else .finite negative (fractionSize + fraction) ((field : Int) - 1075)

def ofMagnitude (negative : Bool) (magnitude : Nat) : Binary64 :=
  ⟨UInt64.ofNat (if negative then signSize + magnitude else magnitude)⟩

def infinityMagnitude : Nat := 2047 * fractionSize

def zero : Binary64 := ⟨0⟩

def nan : Binary64 := ⟨0x7FF8000000000000⟩

def infinity (negative : Bool) : Binary64 :=
  ofMagnitude negative infinityMagnitude

/-- The quotient rounded to the nearest whole number, an exact half to the even one. -/
def roundHalfEven (numerator denominator : Nat) : Nat :=
  let quotient := numerator / denominator
  let twice := 2 * (numerator % denominator)
  if twice < denominator then quotient
  else if denominator < twice then quotient + 1
  else quotient + quotient % 2

def scale (numerator denominator : Nat) (exponent : Int) : Nat × Nat :=
  if exponent < 0 then (numerator <<< exponent.natAbs, denominator)
  else (numerator, denominator <<< exponent.natAbs)

/-- Exponent of the last mantissa bit that a positive fraction keeps. -/
def lastBit (numerator denominator : Nat) : Int :=
  let low := (numerator.log2 : Int) - denominator.log2 - 53
  let (n, d) := scale numerator denominator low
  let exact := if n / d < 2 * fractionSize then low else low + 1
  max exact (-1074)

/-- The number nearest to `± numerator / denominator`, ties to the even mantissa; numbers
too large to be finite become infinite. -/
def ofRatio (negative : Bool) (numerator denominator : Nat) : Binary64 :=
  if numerator = 0 ∨ denominator = 0 then ofMagnitude negative 0
  else
    let exponent := lastBit numerator denominator
    let (n, d) := scale numerator denominator exponent
    let magnitude := (exponent + 1074).toNat * fractionSize + roundHalfEven n d
    ofMagnitude negative (min magnitude infinityMagnitude)

def isInfinite (x : Binary64) : Bool :=
  match x.form with
  | .infinite _ => true
  | _ => false

def isNaN (x : Binary64) : Bool :=
  match x.form with
  | .nan => true
  | _ => false

def quotient? (n : Int) (d : Nat) : Option Binary64 :=
  let x := ofRatio (n < 0) n.natAbs d
  if x.isInfinite then none else some x

def ofInt? (n : Int) : Option Binary64 :=
  quotient? n 1

/-- A finite number as an exact fraction. -/
def ratio? (x : Binary64) : Option (Int × Nat) :=
  match x.form with
  | .finite negative mantissa exponent =>
      let (n, d) := scale mantissa 1 (-exponent)
      some (if negative then -(n : Int) else n, d)
  | _ => none

def integral? (x : Binary64) : Option Int :=
  match x.ratio? with
  | some (n, d) => if n % d = 0 then some (n / d) else none
  | none => none

def ofSignedRatio (n : Int) (d : Nat) : Binary64 :=
  ofRatio (n < 0) n.natAbs d

def add (x y : Binary64) : Binary64 :=
  match x.ratio?, y.ratio? with
  | some (n, d), some (n', d') => ofSignedRatio (n * d' + n' * d) (d * d')
  | none, none => if x = y then x else nan
  | none, some _ => x
  | some _, none => y

def mul (x y : Binary64) : Binary64 :=
  match x.ratio?, y.ratio? with
  | some (n, d), some (n', d') => ofSignedRatio (n * n') (d * d')
  | none, _ => x
  | _, none => y

def divide (x : Binary64) (d : Nat) : Binary64 :=
  match x.form with
  | .finite negative mantissa exponent =>
      let (n, d') := scale mantissa 1 (-exponent)
      ofRatio negative n (d' * d)
  | _ => x

def negate (x : Binary64) : Binary64 :=
  ⟨x.bits ^^^ 0x8000000000000000⟩

def ofDecimal (negative : Bool) (digits : Nat) (exponent : Int) : Binary64 :=
  if digits = 0 then ofMagnitude negative 0
  else
    let size : Int := (Nat.toDigits 10 digits).length
    if size + exponent < -400 then ofMagnitude negative 0
    else if 400 < size + exponent then infinity negative
    else if exponent < 0 then ofRatio negative digits (Nat.pow 10 exponent.natAbs)
    else ofRatio negative (digits * Nat.pow 10 exponent.natAbs) 1

/-- How a number compares with a whole one; a number that is none at all compares with
nothing. -/
def compareInt? (x : Binary64) (n : Int) : Option Ordering :=
  match x.form with
  | .nan => none
  | .infinite negative => some (if negative then .lt else .gt)
  | .finite .. =>
      match x.ratio? with
      | some (numerator, denominator) => some (compare numerator (n * denominator))
      | none => none

def compare? (x y : Binary64) : Option Ordering :=
  match y.form with
  | .nan => none
  | .infinite negative =>
      match x.form with
      | .nan => none
      | .infinite negative' => some (compare negative negative')
      | .finite .. => some (if negative then .gt else .lt)
  | .finite .. =>
      match y.ratio?, x.form with
      | _, .nan => none
      | _, .infinite negative => some (if negative then .lt else .gt)
      | some (n', d'), .finite .. =>
          match x.ratio? with
          | some (n, d) => some (compare (n * d') (n' * d))
          | none => none
      | none, .finite .. => none

end Binary64

end WalCheckpoint
