import WalCheckpoint.Text.Quoted

namespace WalCheckpoint.Text

/-! Texts that no encoding holds, since halves of surrogate pairs are among their code points. -/

/-- A code point: a character, or one half of a surrogate pair. -/
inductive Point where
  | char (c : Char)
  | half (unit : Fin 0x800)
  deriving DecidableEq, Repr

namespace Point

def firstHalf : Nat := 0xD800

def code : Point → Nat
  | .char c => c.toNat
  | .half unit => firstHalf + unit.val

def ofCode? (n : Nat) : Option Point :=
  if h : n.isValidChar then some (.char (Char.ofNatAux n h))
  else if h : n - firstHalf < 0x800 then some (.half ⟨n - firstHalf, h⟩)
  else none

def isHalf : Point → Bool
  | .char _ => false
  | .half _ => true

def char? : Point → Option Char
  | .char c => some c
  | .half _ => none

end Point

/-- A text with at least one half of a pair. -/
abbrev Broken := { points : List Point // points.any Point.isHalf = true }

/-- A text, which may be broken. -/
inductive Loose where
  | sound (s : String)
  | broken (text : Broken)
  deriving DecidableEq, Repr

def ofPoints (points : List Point) : Loose :=
  if h : points.any Point.isHalf = true then .broken ⟨points, h⟩
  else .sound (String.ofList (points.filterMap Point.char?))

theorem ofPoints_chars (cs : List Char) :
    ofPoints (cs.map Point.char) = .sound (String.ofList cs) := by
  have whole : ¬ (cs.map Point.char).any Point.isHalf = true := by
    rw [List.any_map, List.any_eq_true]
    rintro ⟨c, -, half⟩
    contradiction
  have chars : (cs.map Point.char).filterMap Point.char? = cs := by
    rw [List.filterMap_map]
    exact List.filterMap_some
  rw [ofPoints, dif_neg whole, chars]

namespace Broken

def codes (text : Broken) : List Nat :=
  text.val.map Point.code

/-- Halves that meet in the right order make up a character. -/
def joinHalves : List Point → List Point
  | .half high :: .half low :: rest =>
      if high.val < 0x400 ∧ 0x400 ≤ low.val then
        .char (Char.ofNat (0x10000 + high.val * 0x400 + (low.val - 0x400))) :: joinHalves rest
      else .half high :: joinHalves (.half low :: rest)
  | point :: rest => point :: joinHalves rest
  | [] => []

def escapePoint (quote : Char) : Point → List Char
  | .char c => Quoted.encodeChar quote c
  | .half unit => '\\' :: 'u' :: paddedHex 4 (Point.half unit).code

/-- The text as outputs write it, with its halves by their code points. -/
def escaped (text : Broken) : String :=
  String.ofList (text.val.flatMap fun
    | .char c => [c]
    | .half unit => '\\' :: 'u' :: paddedHex 4 (Point.half unit).code)

/-- The text between quotes, with its halves by their code points. -/
def quoted (text : Broken) : String :=
  let quote := Quoted.quoteFor (text.val.filterMap Point.char?)
  String.ofList (quote :: text.val.flatMap (escapePoint quote) ++ [quote])

end Broken

end WalCheckpoint.Text
