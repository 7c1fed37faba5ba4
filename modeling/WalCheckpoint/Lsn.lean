import WalCheckpoint.Text.Numeral
import WalCheckpoint.Text.Quoted

namespace WalCheckpoint.Lsn

/-! Log sequence numbers: 64-bit positions written as two hexadecimal halves. -/

def halfSize : Nat := 0x100000000

def size : Nat := halfSize * halfSize

def upperHalf (position : Int) : Nat :=
  (position / halfSize % halfSize).toNat

def lowerHalf (position : Int) : Nat :=
  (position % halfSize).toNat

/-- Positions beyond 64 bits are written as their remainder. -/
def format (position : Int) : String :=
  String.ofList (Text.Numeral.upperHex (upperHalf position) ++
    '/' :: Text.Numeral.upperHex (lowerHalf position))

inductive ReadError where
  | malformed (text : String)
  | outOfRange (text : String)
  deriving DecidableEq, Repr

def ReadError.message : ReadError → String
  | .malformed text => "Invalid LSN: " ++ Text.Quoted.encode text
  | .outOfRange text => "LSN out of range: " ++ Text.Quoted.encode text

def splitHalves? (cs : List Char) : Option (List Char × List Char) :=
  match cs.dropWhile (· ≠ '/') with
  | [] => none
  | _ :: rest => some (cs.takeWhile (· ≠ '/'), rest)

def read (text : String) : Except ReadError Nat :=
  match splitHalves? (Text.trimBy Text.isBlank text.toList) with
  | none => .error (.malformed text)
  | some (upper, lower) =>
      match Text.Numeral.hexadecimal? upper, Text.Numeral.hexadecimal? lower with
      | some high, some low =>
          if 0 ≤ high ∧ high < halfSize ∧ 0 ≤ low ∧ low < halfSize then
            .ok (high.toNat * halfSize + low.toNat)
          else .error (.outOfRange text)
      | _, _ => .error (.malformed text)

end WalCheckpoint.Lsn
