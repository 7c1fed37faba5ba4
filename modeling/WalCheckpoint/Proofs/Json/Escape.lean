import Mathlib.Tactic.SplitIfs
import WalCheckpoint.Json.Read
import WalCheckpoint.Json.Write
import WalCheckpoint.Proofs.Text.Padded

namespace WalCheckpoint

/-! Text in JSON strings. Whatever a character is written as, it is read back. -/

theorem Text.paddedHex_four {n : Nat} (small : n < 0x10000) :
    paddedHex 4 n = [Nat.digitChar (n / 16 / 16 / 16), Nat.digitChar (n / 16 / 16 % 16),
      Nat.digitChar (n / 16 % 16), Nat.digitChar (n % 16)] := by
  rw [paddedHex, padLeft_toDigits (by decide) (by decide),
    padLeft_toDigits (by decide) (by decide), padLeft_toDigits (by decide) (by decide),
    Nat.toDigits_of_lt_base (by omega)]
  rfl

theorem Text.Numeral.hexDigit?_digitChar {n : Nat} (small : n < 16) :
    hexDigit? (Nat.digitChar n) = some n := by
  revert n
  decide

namespace Json

theorem hexUnit?_paddedHex {n : Nat} (small : n < 0x10000) (rest : List Char) :
    hexUnit? (Text.paddedHex 4 n ++ rest) = some (n, rest) := by
  rw [Text.paddedHex_four small]
  simp only [List.cons_append, List.nil_append, hexUnit?]
  rw [Text.Numeral.hexDigit?_digitChar (by omega), Text.Numeral.hexDigit?_digitChar (by omega),
    Text.Numeral.hexDigit?_digitChar (by omega), Text.Numeral.hexDigit?_digitChar (by omega)]
  simp only [Text.Numeral.ofDigits, List.foldl_cons, List.foldl_nil, Option.some.injEq,
    Prod.mk.injEq, and_true]
  omega

theorem charOf?_toNat (c : Char) : charOf? c.toNat = some c := by
  have valid : c.toNat.isValidChar := c.valid
  rw [charOf?, dif_pos valid]
  rfl

/-- A valid character is not one half of a pair of units. -/
theorem not_surrogate (c : Char) : ¬ (0xD800 ≤ c.toNat ∧ c.toNat < 0xE000) := by
  have valid : c.toNat.isValidChar := c.valid
  simp only [Nat.isValidChar] at valid
  omega

theorem toNat_lt (c : Char) : c.toNat < 0x110000 := by
  have valid : c.toNat.isValidChar := c.valid
  simp only [Nat.isValidChar] at valid
  omega

theorem escapedUnit?_single {c : Char} (small : c.toNat < 0x10000) (rest : List Char) :
    escapedUnit? (Text.paddedHex 4 c.toNat ++ rest) = some (c, rest) := by
  rw [escapedUnit?, hexUnit?_paddedHex small]
  dsimp only
  have single := not_surrogate c
  rw [if_neg (by omega), charOf?_toNat]
  rfl

theorem escapedUnit?_pair {c : Char} {high low : Nat} (upper : 0xD800 ≤ high ∧ high < 0xDC00)
    (lower : 0xDC00 ≤ low ∧ low < 0xE000) (joined : joinUnits high low = c.toNat)
    (rest : List Char) :
    escapedUnit? (Text.paddedHex 4 high ++ escapeUnit low ++ rest) = some (c, rest) := by
  rw [escapedUnit?, List.append_assoc, hexUnit?_paddedHex (by omega), escapeUnit]
  dsimp only [List.cons_append]
  rw [if_pos upper]
  split
  · next more same =>
      obtain rfl : Text.paddedHex 4 low ++ rest = more :=
        List.tail_eq_of_cons_eq (List.tail_eq_of_cons_eq same)
      rw [hexUnit?_paddedHex (by omega)]
      dsimp only
      rw [if_pos lower, joined, charOf?_toNat]
      rfl
  · next other => exact (other _ rfl).elim

theorem joinUnits_split {n : Nat} (large : 0x10000 ≤ n) :
    joinUnits (0xD800 + (n - 0x10000) / 0x400) (0xDC00 + (n - 0x10000) % 0x400) = n := by
  unfold joinUnits
  omega

theorem stringBody?_escapeChar (c : Char) (fuel : Nat) (read rest : List Char) :
    stringBody? (fuel + 1) read (escapeChar c ++ rest) = stringBody? fuel (c :: read) rest := by
  rw [escapeChar]
  split
  · next quote => subst quote; rfl
  split
  · next backslash => subst backslash; rfl
  split
  · next newline => subst newline; rfl
  split
  · next carriage => subst carriage; rfl
  split
  · next tab => subst tab; rfl
  split
  · next feed =>
      obtain rfl : c = Char.ofNat 12 := by rw [← feed, Char.ofNat_toNat]
      rfl
  split
  · next back =>
      obtain rfl : c = Char.ofNat 8 := by rw [← back, Char.ofNat_toNat]
      rfl
  split
  · next quote backslash _ _ _ _ _ printable =>
      rw [List.singleton_append, stringBody?, if_neg quote, if_neg backslash,
        if_neg (by omega)]
  split
  · next small =>
      rw [escapeUnit, List.cons_append, List.cons_append, stringBody?]
      rw [if_neg (by decide), if_pos rfl, escaped?, escapedUnit?_single small]
  · next large =>
      have bounded := toNat_lt c
      rw [escapeUnit, List.cons_append, List.cons_append, List.cons_append, List.cons_append,
        stringBody?]
      rw [if_neg (by decide), if_pos rfl, escaped?,
        escapedUnit?_pair (by omega) (by omega) (joinUnits_split (by omega))]

theorem stringBody?_flatMap (cs : List Char) {fuel : Nat} (enough : cs.length < fuel)
    (read rest : List Char) :
    stringBody? fuel read (cs.flatMap escapeChar ++ '"' :: rest) =
      some (String.ofList (read.reverse ++ cs), rest) := by
  induction cs generalizing fuel read with
  | nil =>
      obtain ⟨fuel, rfl⟩ := Nat.exists_eq_add_of_lt enough
      simp [stringBody?]
  | cons c cs induction =>
      obtain ⟨fuel, rfl⟩ := Nat.exists_eq_add_of_lt (Nat.lt_of_le_of_lt (Nat.zero_le _) enough)
      rw [List.length_cons] at enough
      rw [List.flatMap_cons, List.append_assoc, Nat.zero_add, stringBody?_escapeChar,
        induction (by omega), List.reverse_cons, List.append_assoc]
      rfl

theorem escapeChar_ne_nil (c : Char) : escapeChar c ≠ [] := by
  rw [escapeChar, escapeUnit, escapeUnit, escapeUnit]
  split_ifs <;> exact List.cons_ne_nil _ _

/-- The fuel of a reader, which counts the characters to come, is enough for a string. -/
theorem length_le_flatMap_escapeChar (cs : List Char) :
    cs.length ≤ (cs.flatMap escapeChar).length := by
  induction cs with
  | nil => exact Nat.zero_le _
  | cons c cs induction =>
      have written : 0 < (escapeChar c).length := List.length_pos_iff.mpr (escapeChar_ne_nil c)
      rw [List.flatMap_cons, List.length_append, List.length_cons]
      omega

end Json

end WalCheckpoint
