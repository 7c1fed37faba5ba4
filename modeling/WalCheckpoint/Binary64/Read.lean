import WalCheckpoint.Binary64
import WalCheckpoint.Text.Numeral

namespace WalCheckpoint.Binary64

/-! Floating-point numbers as text: digits around a point, one of them at least, and maybe a power
of ten after the letter `e`. Single underscores may stand between two digits, and words stand for
what is not finite. -/

def splitDigits (cs : List Char) : List Char × List Char :=
  let isPart (c : Char) : Bool := c == '_' || c.isDigit
  (cs.takeWhile isPart, cs.dropWhile isPart)

/-- The values of digits; there may be none at all. -/
def digitValues? : List Char → Option (List Nat)
  | [] => some []
  | cs => Text.Numeral.digits? Text.Numeral.decimalDigit? cs

def readExponent? : List Char → Option Int
  | [] => some 0
  | e :: cs =>
      if e.toLower = 'e' then
        let (negative, digits) := Text.Numeral.splitSign cs
        (Text.Numeral.digits? Text.Numeral.decimalDigit? digits).map fun digits =>
          Text.Numeral.signed negative (Text.Numeral.ofDigits 10 digits)
      else none

def readFinite? (negative : Bool) (cs : List Char) : Option Binary64 := do
  let (whole, rest) := splitDigits cs
  let (fraction, rest) :=
    match rest with
    | '.' :: rest => splitDigits rest
    | rest => ([], rest)
  let whole ← digitValues? whole
  let fraction ← digitValues? fraction
  let exponent ← readExponent? rest
  if whole.isEmpty && fraction.isEmpty then none
  else
    some (ofDecimal negative (Text.Numeral.ofDigits 10 (whole ++ fraction))
      (exponent - fraction.length))

def infiniteWords : List String := ["inf", "infinity"]

def read? (text : List Char) : Option Binary64 :=
  let cs := Text.trimBy Text.isAsciiBlank (text.map Text.Numeral.plainChar)
  let (negative, body) := Text.Numeral.splitSign cs
  let word := (String.ofList body).toLower
  if infiniteWords.contains word then some (infinity negative)
  else if word = "nan" then some nan
  else readFinite? negative body

end WalCheckpoint.Binary64
