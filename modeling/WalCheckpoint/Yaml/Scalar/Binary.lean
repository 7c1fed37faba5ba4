import WalCheckpoint.Value
import WalCheckpoint.Yaml.Cursor

namespace WalCheckpoint.Yaml.Binary

/-! Bytes as text: each character stands for six bits. -/

def digit? (c : Char) : Option Nat :=
  if c.isUpper then some (c.toNat - 'A'.toNat)
  else if c.isLower then some (c.toNat - 'a'.toNat + 26)
  else if c.isDigit then some (c.toNat - '0'.toNat + 52)
  else if c = '+' then some 62
  else if c = '/' then some 63
  else none

/-- What is left of the digits so far: how many of a group of four are read, and their bits that no
byte has yet. After them come marks that fill up the group. -/
structure Left where
  count : Nat
  bits : Nat
  marks : Nat
  deriving DecidableEq, Repr

def Left.none : Left := ⟨0, 0, 0⟩

/-- One more digit, and the byte it completes. -/
def Left.add (left : Left) (digit : Nat) : Option UInt8 × Left :=
  match left.count with
  | 0 => (.none, ⟨1, digit, 0⟩)
  | 1 => (some (UInt8.ofNat (left.bits * 4 + digit / 16)), ⟨2, digit % 16, 0⟩)
  | 2 => (some (UInt8.ofNat (left.bits * 16 + digit / 4)), ⟨3, digit % 4, 0⟩)
  | _ => (some (UInt8.ofNat (left.bits * 64 + digit)), .none)

/-- Characters that are neither digits nor marks are passed over. A filled group ends the bytes, and
without marks no group may be left open. -/
def bytes? (left : Left) : List Char → Option (List UInt8)
  | [] => if left.count = 0 then some [] else none
  | c :: rest =>
      if c = '=' then
        if left.count < 2 then bytes? left rest
        else if 4 ≤ left.count + left.marks + 1 then some []
        else bytes? { left with marks := left.marks + 1 } rest
      else
        match digit? c with
        | none => bytes? left rest
        | some digit =>
            let (byte, left) := left.add digit
            (bytes? left rest).map (byte.toList ++ ·)

def read (cs : List Char) : Except Fault Value :=
  if cs.all fun c => c.toNat < 128 then
    (bytes? .none cs).elim (.error .malformed) fun bytes => .ok (.bytes bytes)
  else .error .malformed

end WalCheckpoint.Yaml.Binary
