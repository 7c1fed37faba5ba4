import WalCheckpoint.Value

namespace WalCheckpoint

open Time

/-! Values in order. -/

namespace Value

/-- The code points of a text. -/
def codes? : Value → Option (List Nat)
  | .string s => some (s.toList.map Char.toNat)
  | .broken text => some text.codes
  | _ => none

def isText (value : Value) : Bool :=
  value.codes?.isSome

def isBytes : Value → Bool
  | .bytes _ => true
  | _ => false

def isDate : Value → Bool
  | .date _ => true
  | _ => false

def isInstant (hasOffset : Bool) : Value → Bool
  | .dateTime t => t.offset.isSome == hasOffset
  | _ => false

def codesNotAfter (codes codes' : List Nat) : Bool :=
  !codes'.lex codes fun code code' => code < code'

def notAfter : Value → Value → Bool
  | .bytes bs, .bytes bs' => codesNotAfter (bs.map UInt8.toNat) (bs'.map UInt8.toNat)
  | .date d, .date d' => d.ordinal ≤ d'.ordinal
  | .dateTime t, .dateTime t' => t.toMicros ≤ t'.toMicros
  | x, y =>
      match x.codes?, y.codes?, x.number?, y.number? with
      | some codes, some codes', _, _ => codesNotAfter codes codes'
      | _, _, some n, some n' => n.compare? n' != some .gt
      | _, _, _, _ => true

/-- Texts, bytes, numbers, dates, and instants with or without offset have an order, each among
themselves. -/
def areComparable (values : List Value) : Bool :=
  values.length ≤ 1 || values.all isText || values.all isBytes ||
    values.all (fun x => x.number?.isSome) ||
    values.all isDate || values.all (isInstant true) || values.all (isInstant false)

def sort? (values : List Value) : Option (List Value) :=
  if areComparable values then some (values.mergeSort notAfter) else none

end Value

end WalCheckpoint
