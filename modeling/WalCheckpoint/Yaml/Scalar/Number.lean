import WalCheckpoint.Binary64.Read
import WalCheckpoint.Yaml.Cursor

namespace WalCheckpoint.Yaml.Number

/-! Numbers among plain scalars. Underscores may stand among their digits. Parts set apart by
colons are digits to the base sixty. A scalar that is marked as a number may be written in more
ways than one that is known as a number by its text. -/

def isDigitOr (isDigit : Char → Bool) (c : Char) : Bool :=
  c == '_' || isDigit c

def isBinary (c : Char) : Bool := c == '0' || c == '1'

def isOctal (c : Char) : Bool := '0' ≤ c && c ≤ '7'

def isHexadecimal (c : Char) : Bool := (Text.Numeral.hexDigit? c).isSome

def isRun (isDigit : Char → Bool) (cs : List Char) : Bool :=
  !cs.isEmpty && cs.all (isDigitOr isDigit)

/-- A run that begins with a digit. -/
def isDigitRun (cs : List Char) : Bool :=
  (cs.head?.any Char.isDigit) && cs.all (isDigitOr Char.isDigit)

/-- One or two digits for a number below sixty. -/
def isSixtieth : List Char → Bool
  | [c] => c.isDigit
  | [c, d] => '0' ≤ c && c ≤ '5' && d.isDigit
  | _ => false

def splitAtColons (cs : List Char) : List (List Char) :=
  cs.splitOn ':'

/-- A decimal number, or several of which all but the first are below sixty. -/
def isDecimal (cs : List Char) : Bool :=
  match splitAtColons cs with
  | [] => false
  | first :: more => isDigitRun first && first.head? != some '0' && more.all isSixtieth

def isInt (cs : List Char) : Bool :=
  match (Text.Numeral.splitSign cs).2 with
  | '0' :: 'b' :: run => isRun isBinary run
  | '0' :: 'x' :: run => isRun isHexadecimal run
  | ['0'] => true
  | '0' :: run => isRun isOctal run
  | cs => isDecimal cs

/-- No exponent, or a power of ten after `e`, whose sign is always written. -/
def isExponent : List Char → Bool
  | [] => true
  | e :: sign :: digits =>
      (e == 'e' || e == 'E') && (sign == '+' || sign == '-') && !digits.isEmpty &&
        digits.all Char.isDigit
  | _ => false

def isFraction (cs : List Char) : Bool :=
  isExponent (cs.dropWhile (isDigitOr Char.isDigit))

def isSexagesimal (whole fraction : List Char) : Bool :=
  match splitAtColons whole with
  | first :: second :: more =>
      isDigitRun first && (second :: more).all isSixtieth &&
        fraction.all (isDigitOr Char.isDigit)
  | _ => false

/-- A number with a point, after its sign. -/
def isPointed (cs : List Char) : Bool :=
  match cs.dropWhile (· != '.') with
  | [] => false
  | _ :: fraction =>
      let whole := cs.takeWhile (· != '.')
      (isDigitRun whole && isFraction fraction) || isSexagesimal whole fraction

/-- A number that begins with its point has no sign. -/
def beginsWithPoint (cs : List Char) : Bool :=
  match cs with
  | '.' :: fraction => (fraction.head?.any Char.isDigit) && isFraction fraction
  | _ => false

def isSpecial (cs : List Char) : Bool :=
  [".inf", ".Inf", ".INF"].contains (String.ofList (Text.Numeral.splitSign cs).2) ||
    [".nan", ".NaN", ".NAN"].contains (String.ofList cs)

def isFloat (cs : List Char) : Bool :=
  isPointed (Text.Numeral.splitSign cs).2 || beginsWithPoint cs || isSpecial cs

def dropUnderscores (cs : List Char) : List Char :=
  cs.filter (· ≠ '_')

def whole (base : Nat) (cs : List Char) : Except Fault Int :=
  (Text.Numeral.inBase? base cs).elim (.error .badNumber) .ok

def wholeOfParts (parts : List (List Char)) : Except Fault Int := do
  let values ← parts.mapM (whole 10)
  return values.foldl (fun value part => value * 60 + part) 0

/-- The magnitude of a whole number. One that begins with zero is octal. -/
def magnitude : List Char → Except Fault Int
  | [] => .error .emptyNumber
  | ['0'] => .ok 0
  | '0' :: 'b' :: digits => whole 2 digits
  | '0' :: 'x' :: digits => whole 16 digits
  | '0' :: digits => whole 8 ('0' :: digits)
  | cs => if cs.contains ':' then wholeOfParts (splitAtColons cs) else whole 10 cs

def readInt (cs : List Char) : Except Fault Int :=
  let (negative, body) := Text.Numeral.splitSign (dropUnderscores cs)
  (magnitude body).map fun n => if negative then -n else n

def part (cs : List Char) : Except Fault Binary64 :=
  (Binary64.read? cs).elim (.error .badNumber) .ok

/-- The sum of the parts, last one first, each times its power of sixty and rounded. -/
def sexagesimal (sum : Binary64) (power : Nat) : List Binary64 → Except Fault Binary64
  | [] => .ok sum
  | part :: rest =>
      match Binary64.ofInt? power with
      | some factor => sexagesimal (sum.add (part.mul factor)) (power * 60) rest
      | none => .error .numberTooLarge

def floatMagnitude (cs : List Char) : Except Fault Binary64 :=
  if cs.contains ':' then do
    let parts ← (splitAtColons cs).mapM part
    sexagesimal Binary64.zero 1 parts.reverse
  else part cs

/-- The value of a number with a point. What is no number has no sign. -/
def readFloat (cs : List Char) : Except Fault Binary64 :=
  match (dropUnderscores cs).map Char.toLower with
  | [] => .error .emptyNumber
  | c :: rest =>
      let (negative, body) := Text.Numeral.splitSign (c :: rest)
      if String.ofList body = ".nan" then .ok .nan
      else if String.ofList body = ".inf" then .ok (.infinity negative)
      else (floatMagnitude body).map fun x => if negative then x.negate else x

end WalCheckpoint.Yaml.Number
