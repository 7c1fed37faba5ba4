import WalCheckpoint.Text.Numeral
import WalCheckpoint.Value

namespace WalCheckpoint.Json

/-! Values read from JSON text. Of two equal names in an object the later value counts. -/

def isSpace (c : Char) : Bool :=
  c = ' ' || c = '\t' || c = '\n' || c = '\r'

def skipSpace (cs : List Char) : List Char :=
  cs.dropWhile isSpace

def afterText? : (text cs : List Char) → Option (List Char)
  | [], cs => some cs
  | _, [] => none
  | x :: text, c :: cs => if x = c then afterText? text cs else none

def hexUnit? : List Char → Option (Nat × List Char)
  | a :: b :: c :: d :: rest =>
      match Text.Numeral.hexDigit? a, Text.Numeral.hexDigit? b, Text.Numeral.hexDigit? c,
          Text.Numeral.hexDigit? d with
      | some a, some b, some c, some d => some (Text.Numeral.ofDigits 16 [a, b, c, d], rest)
      | _, _, _, _ => none
  | _ => none

def charOf? (n : Nat) : Option Char :=
  if h : n.isValidChar then some (Char.ofNatAux n h) else none

def joinUnits (high low : Nat) : Nat :=
  0x10000 + (high - 0xD800) * 0x400 + (low - 0xDC00)

def escapedUnit? (cs : List Char) : Option (Char × List Char) :=
  match hexUnit? cs with
  | none => none
  | some (unit, rest) =>
      if 0xD800 ≤ unit ∧ unit < 0xDC00 then
        match rest with
        | '\\' :: 'u' :: more =>
            match hexUnit? more with
            | some (low, rest) =>
                if 0xDC00 ≤ low ∧ low < 0xE000 then
                  (charOf? (joinUnits unit low)).map fun c => (c, rest)
                else none
            | none => none
        | _ => none
      else (charOf? unit).map fun c => (c, rest)

def escaped? : List Char → Option (Char × List Char)
  | '"' :: rest => some ('"', rest)
  | '\\' :: rest => some ('\\', rest)
  | '/' :: rest => some ('/', rest)
  | 'b' :: rest => some (Char.ofNat 8, rest)
  | 'f' :: rest => some (Char.ofNat 12, rest)
  | 'n' :: rest => some ('\n', rest)
  | 'r' :: rest => some ('\r', rest)
  | 't' :: rest => some ('\t', rest)
  | 'u' :: rest => escapedUnit? rest
  | _ => none

def stringBody? (fuel : Nat) (read : List Char) (cs : List Char) :
    Option (String × List Char) :=
  match fuel, cs with
  | 0, _ => none
  | _, [] => none
  | fuel + 1, c :: rest =>
      if c = '"' then some (String.ofList read.reverse, rest)
      else if c = '\\' then
        match escaped? rest with
        | some (c, rest) => stringBody? fuel (c :: read) rest
        | none => none
      else if c.toNat < 32 then none
      else stringBody? fuel (c :: read) rest

def digitsOf (cs : List Char) : List Nat :=
  cs.map fun c => c.toNat - 48

def splitFraction (cs : List Char) : List Char × List Char :=
  match cs with
  | '.' :: rest =>
      let digits := rest.takeWhile Char.isDigit
      if digits.isEmpty then ([], cs) else (digits, rest.dropWhile Char.isDigit)
  | _ => ([], cs)

def splitExponent (cs : List Char) : Option Int × List Char :=
  match cs with
  | [] => (none, cs)
  | e :: rest =>
      if e = 'e' ∨ e = 'E' then
        let (negative, body) := Text.Numeral.splitSign rest
        let digits := body.takeWhile Char.isDigit
        if digits.isEmpty then (none, cs)
        else
          (some (Text.Numeral.signed negative (Text.Numeral.ofDigits 10 (digitsOf digits))),
            body.dropWhile Char.isDigit)
      else (none, cs)

def wholePart? : List Char → Option (List Char × List Char)
  | '0' :: rest => some (['0'], rest)
  | cs =>
      let digits := cs.takeWhile Char.isDigit
      if digits.isEmpty then none else some (digits, cs.dropWhile Char.isDigit)

def magnitude? (negative : Bool) (cs : List Char) : Option (Value × List Char) := do
  let (whole, rest) ← wholePart? cs
  let (fraction, rest) := splitFraction rest
  let (exponent, rest) := splitExponent rest
  let digits := Text.Numeral.ofDigits 10 (digitsOf (whole ++ fraction))
  if fraction.isEmpty ∧ exponent.isNone then
    if whole.length ≤ Text.Numeral.digitLimit then
      some (.int (Text.Numeral.signed negative digits), rest)
    else none
  else
    let power := exponent.getD 0 - fraction.length
    some (.float (Binary64.ofDecimal negative digits power), rest)

/-- Words and numbers: values without parts that do not begin with a quote. -/
def plain? (cs : List Char) : Option (Value × List Char) :=
  let words : List (String × Value) :=
    [ ("null", .null), ("true", .bool true), ("false", .bool false),
      ("NaN", .float .nan), ("Infinity", .float (.infinity false)),
      ("-Infinity", .float (.infinity true)) ]
  match words.findSome? fun word => (afterText? word.1.toList cs).map (word.2, ·) with
  | some found => some found
  | none =>
      match cs with
      | '-' :: rest => magnitude? true rest
      | _ => magnitude? false cs

mutual
def value? (fuel : Nat) (cs : List Char) : Option (Value × List Char) :=
  match fuel with
  | 0 => none
  | fuel + 1 =>
      match cs with
      | '"' :: rest => (stringBody? (rest.length + 1) [] rest).map fun read =>
          (.string read.1, read.2)
      | '[' :: rest =>
          match skipSpace rest with
          | ']' :: rest => some (.list [], rest)
          | rest => items? fuel [] rest
      | '\x7b' :: rest =>
          match skipSpace rest with
          | '\x7d' :: rest => some (.map [], rest)
          | rest => entries? fuel [] rest
      | cs => plain? cs

def items? (fuel : Nat) (read : List Value) (cs : List Char) :
    Option (Value × List Char) :=
  match fuel with
  | 0 => none
  | fuel + 1 =>
      match value? fuel (skipSpace cs) with
      | none => none
      | some (item, rest) =>
          match skipSpace rest with
          | ',' :: rest => items? fuel (item :: read) rest
          | ']' :: rest => some (.list (item :: read).reverse, rest)
          | _ => none

def entries? (fuel : Nat) (read : Mapping) (cs : List Char) :
    Option (Value × List Char) :=
  match fuel with
  | 0 => none
  | fuel + 1 =>
      match skipSpace cs with
      | '"' :: rest =>
          match stringBody? (rest.length + 1) [] rest with
          | none => none
          | some (name, rest) =>
              match skipSpace rest with
              | ':' :: rest =>
                  match value? fuel (skipSpace rest) with
                  | none => none
                  | some (value, rest) =>
                      let read := read.insert (.string name) value
                      match skipSpace rest with
                      | ',' :: rest => entries? fuel read rest
                      | '\x7d' :: rest => some (.map read, rest)
                      | _ => none
              | _ => none
      | _ => none
end

/-- The value of a text that holds one value and white space around it. Each step of the
reader uses up a character, so twice their number is enough. -/
def read? (text : String) : Option Value :=
  let cs := text.toList
  match value? (2 * cs.length + 2) (skipSpace cs) with
  | some (value, rest) => if (skipSpace rest).isEmpty then some value else none
  | none => none

end WalCheckpoint.Json
