import WalCheckpoint.Text.Quoted

namespace WalCheckpoint.Text.Bytes

/-! Bytes as text. -/

def encodeByte (quote : Char) (b : UInt8) : List Char :=
  let c := Char.ofNat b.toNat
  if c = quote ∨ c = '\\' then ['\\', c]
  else if c = '\t' then ['\\', 't']
  else if c = '\n' then ['\\', 'n']
  else if c = '\r' then ['\\', 'r']
  else if 32 ≤ b.toNat ∧ b.toNat < 127 then [c]
  else '\\' :: 'x' :: paddedHex 2 b.toNat

/-- Bytes between quotes, those of ASCII as characters. -/
def quoted (bytes : List UInt8) : String :=
  let quote := Quoted.quoteFor (bytes.map fun b => Char.ofNat b.toNat)
  String.ofList ('b' :: quote :: bytes.flatMap (encodeByte quote) ++ [quote])

def strict? (bytes : List UInt8) : Option String :=
  String.fromUTF8? bytes.toByteArray

/-- How a character of several bytes begins: the bits of its first byte, the number of bytes that
follow, and the bounds of the first of these. -/
structure Lead where
  bits : Nat
  following : Nat
  least : Nat
  most : Nat
  deriving DecidableEq, Repr

def lead? (b : UInt8) : Option Lead :=
  let n := b.toNat
  if n < 0xC2 then none
  else if n < 0xE0 then some ⟨n - 0xC0, 1, 0x80, 0xBF⟩
  else if n < 0xF0 then
    some ⟨n - 0xE0, 2, if n = 0xE0 then 0xA0 else 0x80, if n = 0xED then 0x9F else 0xBF⟩
  else if n < 0xF5 then
    some ⟨n - 0xF0, 3, if n = 0xF0 then 0x90 else 0x80, if n = 0xF4 then 0x8F else 0xBF⟩
  else none

/-- The bytes that carry a character on, as far as they do. -/
def tail (lead : Lead) : List UInt8 → List UInt8
  | [] => []
  | b :: rest =>
      if lead.least ≤ b.toNat ∧ b.toNat ≤ lead.most then
        b :: (rest.take (lead.following - 1)).takeWhile fun b => 0x80 ≤ b.toNat && b.toNat ≤ 0xBF
      else []

def replacement : Char := '\uFFFD'

/-- The text of bytes. What begins a character and breaks off, and a byte that begins none, is
replaced. -/
def lossyWithin (fuel : Nat) (bytes : List UInt8) : List Char :=
  match fuel, bytes with
  | 0, _ => []
  | _, [] => []
  | fuel + 1, b :: rest =>
      if b.toNat < 0x80 then Char.ofNat b.toNat :: lossyWithin fuel rest
      else
        match lead? b with
        | none => replacement :: lossyWithin fuel rest
        | some lead =>
            let more := tail lead rest
            let c :=
              if more.length = lead.following then
                Char.ofNat (more.foldl (fun n b => n * 64 + (b.toNat - 0x80)) lead.bits)
              else replacement
            c :: lossyWithin fuel (rest.drop more.length)

def lossy (bytes : List UInt8) : String :=
  String.ofList (lossyWithin bytes.length bytes)

end WalCheckpoint.Text.Bytes
