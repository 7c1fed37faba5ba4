import Mathlib.Data.List.Basic
import WalCheckpoint.Lsn
import WalCheckpoint.Proofs.Text.Hexadecimal

namespace WalCheckpoint.Lsn

open Text (isBlank trimBy)
open Text.Numeral (Hexadecimal PlainHex hexDigit? hexadecimal? isBlank_of_isGap isGap)

/-! The texts that are read as positions, and why each other one is refused. -/

/-- Two halves of hexadecimal digits with a slash between them, and white space around the whole. -/
inductive Plain : List Char → Int → Int → Prop
  | intro {before upper lower after : List Char} {high low : Nat}
      (blankBefore : ∀ c ∈ before, isBlank c = true) (upperHalf : PlainHex upper high)
      (lowerHalf : PlainHex lower low) (blankAfter : ∀ c ∈ after, isBlank c = true) :
      Plain (before ++ (upper ++ '/' :: lower) ++ after) high low

/-- Two numerals with a slash between them, and white space around the whole and around the slash. -/
inductive Spells : List Char → Int → Int → Prop
  | intro {before upper gap gap' lower after : List Char} {high low : Int}
      (blankBefore : ∀ c ∈ before, isBlank c = true) (upperHalf : Hexadecimal upper high)
      (blankGap : ∀ c ∈ gap, isGap c = true) (blankGap' : ∀ c ∈ gap', isGap c = true)
      (lowerHalf : Hexadecimal lower low) (blankAfter : ∀ c ∈ after, isBlank c = true) :
      Spells (before ++ (upper ++ gap ++ '/' :: (gap' ++ lower)) ++ after) high low

def IsHalf (n : Int) : Prop := 0 ≤ n ∧ n < halfSize

section Halves

variable {cs upper lower : List Char}

theorem splitHalves?_append (first : '/' ∉ upper) (lower : List Char) :
    splitHalves? (upper ++ '/' :: lower) = some (upper, lower) := by
  have before : ∀ c ∈ upper, decide (c ≠ '/') = true := by
    intro c member
    apply decide_eq_true
    rintro rfl
    exact first member
  rw [splitHalves?, List.dropWhile_append_of_pos before, List.takeWhile_append_of_pos before]
  simp

theorem splitHalves?_of_not_mem (absent : '/' ∉ cs) : splitHalves? cs = none := by
  have none : cs.dropWhile (· ≠ '/') = [] := by
    rw [List.dropWhile_eq_nil_iff]
    intro c member
    apply decide_eq_true
    rintro rfl
    exact absent member
  rw [splitHalves?, none]

theorem splitHalves?_eq_some_iff :
    splitHalves? cs = some (upper, lower) ↔ cs = upper ++ '/' :: lower ∧ '/' ∉ upper := by
  constructor
  · intro split
    by_cases member : '/' ∈ cs
    · obtain ⟨front, rest, rfl, first⟩ := List.eq_append_cons_of_mem member
      rw [splitHalves?_append first] at split
      obtain ⟨rfl, rfl⟩ := Prod.mk.inj (Option.some.inj split)
      exact ⟨rfl, first⟩
    · rw [splitHalves?_of_not_mem member] at split
      contradiction
  · rintro ⟨rfl, first⟩
    exact splitHalves?_append first lower

end Halves

section Grammar

variable {cs : List Char} {high low : Int}

theorem slash_not_mem {n : Int} (half : Hexadecimal cs n) : '/' ∉ cs := by
  have other : ∀ c ∈ cs, c ≠ '/' := by
    apply half.forall (P := fun c => c ≠ '/') (fun c marked => ?_) (fun c digit value => ?_)
    · rintro rfl
      revert marked
      decide
    · rintro rfl
      have none : Text.Numeral.hexValue? '/' = none := by decide
      rw [none] at value
      contradiction
  exact fun member => other '/' member rfl

/-- The white space around a numeral is told from it by its first and its last character. -/
theorem trimBy_spelled {before upper gap gap' lower after : List Char}
    (blankBefore : ∀ c ∈ before, isBlank c = true) (upperHalf : Hexadecimal upper high)
    (lowerHalf : Hexadecimal lower low) (blankAfter : ∀ c ∈ after, isBlank c = true) :
    trimBy isBlank (before ++ (upper ++ gap ++ '/' :: (gap' ++ lower)) ++ after) =
      upper ++ gap ++ '/' :: (gap' ++ lower) := by
  apply Text.trimBy_of_ends blankBefore blankAfter
  · intro c first
    rw [List.append_assoc, List.head?_append_of_ne_nil _ upperHalf.ne_nil] at first
    exact upperHalf.isBlank c (List.mem_of_mem_head? first)
  · intro c last
    rw [List.getLast?_append_cons, ← List.cons_append,
      List.getLast?_append_of_ne_nil _ lowerHalf.ne_nil] at last
    exact lowerHalf.isBlank c (List.mem_of_mem_getLast? last)

theorem hexadecimal?_between {before after : List Char} {n : Int}
    (gapBefore : ∀ c ∈ before, isGap c = true) (half : Hexadecimal cs n)
    (gapAfter : ∀ c ∈ after, isGap c = true) :
    hexadecimal? (before ++ cs ++ after) = some n := by
  have solid : ∀ c ∈ cs, isGap c = false :=
    fun c member => Text.Numeral.isGap_of_solid (half.isBlank c member)
  rw [Text.Numeral.hexadecimal?_eq_some_iff, Text.trimBy_enclosed gapBefore gapAfter solid]
  exact half

theorem Spells.halves (spells : Spells cs high low) :
    ∃ upper lower, splitHalves? (trimBy isBlank cs) = some (upper, lower) ∧
      hexadecimal? upper = some high ∧ hexadecimal? lower = some low := by
  obtain @⟨before, upper, gap, gap', lower, after, _, _, blankBefore, upperHalf, blankGap, blankGap',
    lowerHalf, blankAfter⟩ := spells
  refine ⟨upper ++ gap, gap' ++ lower, ?_, ?_, ?_⟩
  · rw [trimBy_spelled blankBefore upperHalf lowerHalf blankAfter, splitHalves?_append]
    intro member
    rcases List.mem_append.mp member with inUpper | inGap
    · exact slash_not_mem upperHalf inUpper
    · exact absurd (blankGap '/' inGap) (by decide)
  · exact hexadecimal?_between (List.forall_mem_nil _) upperHalf blankGap
  · rw [← List.append_nil (gap' ++ lower)]
    exact hexadecimal?_between blankGap' lowerHalf (List.forall_mem_nil _)

theorem Spells.of_halves {upper lower : List Char}
    (split : splitHalves? (trimBy isBlank cs) = some (upper, lower))
    (readUpper : hexadecimal? upper = some high) (readLower : hexadecimal? lower = some low) :
    Spells cs high low := by
  obtain ⟨before, after, whole, blankBefore, blankAfter⟩ := Text.exists_trimBy isBlank cs
  obtain ⟨outer, gap, spelledUpper, blankOuter, blankGap⟩ := Text.exists_trimBy isGap upper
  obtain ⟨gap', outer', spelledLower, blankGap', blankOuter'⟩ := Text.exists_trimBy isGap lower
  obtain ⟨halves, -⟩ := splitHalves?_eq_some_iff.mp split
  have upperHalf := Text.Numeral.hexadecimal?_eq_some_iff.mp readUpper
  have lowerHalf := Text.Numeral.hexadecimal?_eq_some_iff.mp readLower
  generalize trimBy isGap upper = upperBody at *
  generalize trimBy isGap lower = lowerBody at *
  -- White space before the first half belongs to that before the whole, and likewise behind.
  have spelled : cs = (before ++ outer) ++ (upperBody ++ gap ++ '/' :: (gap' ++ lowerBody)) ++
      (outer' ++ after) := by
    rw [whole, halves, spelledUpper, spelledLower]
    simp only [List.append_assoc, List.cons_append]
  rw [spelled]
  exact .intro
    (List.forall_mem_append.mpr ⟨blankBefore, fun c member => isBlank_of_isGap (blankOuter c member)⟩)
    upperHalf blankGap blankGap' lowerHalf
    (List.forall_mem_append.mpr ⟨fun c member => isBlank_of_isGap (blankOuter' c member), blankAfter⟩)

theorem eq_nil_of_isGap {gap : List Char} (blank : ∀ c ∈ gap, isGap c = true)
    (allowed : ∀ c ∈ gap, c = '/' ∨ (hexDigit? c).isSome = true) : gap = [] := by
  apply List.eq_nil_iff_forall_not_mem.mpr
  intro c member
  have blank := isBlank_of_isGap (blank c member)
  rcases allowed c member with rfl | digit
  · exact absurd blank (by decide)
  · obtain ⟨value, read⟩ := Option.isSome_iff_exists.mp digit
    rw [Text.Numeral.isBlank_of_hexValue? (Text.Numeral.hexValue?_of_hexDigit? read)] at blank
    contradiction

theorem Plain.spells (plain : Plain cs high low) : Spells cs high low := by
  obtain @⟨before, upper, lower, after, high, low, blankBefore, upperHalf, lowerHalf, blankAfter⟩ :=
    plain
  have spells : Spells (before ++ (upper ++ [] ++ '/' :: ([] ++ lower)) ++ after) high low :=
    .intro blankBefore upperHalf.hexadecimal (List.forall_mem_nil _) (List.forall_mem_nil _)
      lowerHalf.hexadecimal blankAfter
  rwa [List.append_nil, List.nil_append] at spells

theorem Plain.allowed (plain : Plain cs high low) :
    ∀ c ∈ trimBy isBlank cs, c = '/' ∨ (hexDigit? c).isSome = true := by
  obtain @⟨before, upper, lower, after, high, low, blankBefore, upperHalf, lowerHalf, blankAfter⟩ :=
    plain
  have trimmed : trimBy isBlank (before ++ (upper ++ [] ++ '/' :: ([] ++ lower)) ++ after) =
      upper ++ [] ++ '/' :: ([] ++ lower) :=
    trimBy_spelled blankBefore upperHalf.hexadecimal lowerHalf.hexadecimal blankAfter
  rw [List.append_nil, List.nil_append] at trimmed
  rw [trimmed]
  exact List.forall_mem_append.mpr ⟨fun c member => .inr (upperHalf.digits c member),
    List.forall_mem_cons.mpr ⟨.inl rfl, fun c member => .inr (lowerHalf.digits c member)⟩⟩

theorem plainHex_of_allowed (half : Hexadecimal cs high)
    (allowed : ∀ c ∈ cs, c = '/' ∨ (hexDigit? c).isSome = true) :
    ∃ n : Nat, high = n ∧ PlainHex cs n := by
  apply half.plain
  intro c member
  rcases allowed c member with rfl | digit
  · exact absurd member (slash_not_mem half)
  · exact digit

theorem Spells.plain (spells : Spells cs high low)
    (allowed : ∀ c ∈ trimBy isBlank cs, c = '/' ∨ (hexDigit? c).isSome = true) :
    Plain cs high low := by
  obtain @⟨before, upper, gap, gap', lower, after, _, _, blankBefore, upperHalf, blankGap, blankGap',
    lowerHalf, blankAfter⟩ := spells
  rw [trimBy_spelled blankBefore upperHalf lowerHalf blankAfter] at allowed
  obtain ⟨inFront, behind⟩ := List.forall_mem_append.mp allowed
  obtain ⟨inUpper, inGap⟩ := List.forall_mem_append.mp inFront
  obtain ⟨inGap', inLower⟩ := List.forall_mem_append.mp (List.forall_mem_cons.mp behind).2
  obtain rfl := eq_nil_of_isGap blankGap inGap
  obtain rfl := eq_nil_of_isGap blankGap' inGap'
  obtain ⟨high, rfl, plainUpper⟩ := plainHex_of_allowed upperHalf inUpper
  obtain ⟨low, rfl, plainLower⟩ := plainHex_of_allowed lowerHalf inLower
  rw [List.append_nil, List.nil_append]
  exact .intro blankBefore plainUpper plainLower blankAfter

end Grammar

/-! The outcome of a reading is told from the spelling alone. -/

/-- What a text is read as, and why. -/
inductive Reads (text : String) : Except ReadError Nat → Prop
  | position {high low : Nat} (spells : Spells text.toList high low) (upperHalf : high < halfSize)
      (lowerHalf : low < halfSize) : Reads text (.ok (high * halfSize + low))
  | outOfRange {high low : Int} (spells : Spells text.toList high low)
      (beyond : ¬ (IsHalf high ∧ IsHalf low)) : Reads text (.error (.outOfRange text))
  | malformed (none : ∀ high low, ¬ Spells text.toList high low) :
      Reads text (.error (.malformed text))

section Reading

variable {text : String} {high low : Int} {result : Except ReadError Nat}

theorem read_of_spells (spells : Spells text.toList high low) :
    read text = if 0 ≤ high ∧ high < halfSize ∧ 0 ≤ low ∧ low < halfSize then
      .ok (high.toNat * halfSize + low.toNat) else .error (.outOfRange text) := by
  obtain ⟨upper, lower, split, readUpper, readLower⟩ := spells.halves
  simp only [read, split, readUpper, readLower]

theorem read_of_not_spells (none : ∀ high low, ¬ Spells text.toList high low) :
    read text = .error (.malformed text) := by
  rw [read]
  cases split : splitHalves? (trimBy isBlank text.toList) with
  | none => rfl
  | some halves =>
      obtain ⟨upper, lower⟩ := halves
      dsimp only
      split
      · next high low readUpper readLower =>
          exact absurd (Spells.of_halves split readUpper readLower) (none high low)
      · rfl

theorem Reads.read_eq (reads : Reads text result) : read text = result := by
  cases reads with
  | position spells upperHalf lowerHalf =>
      rw [read_of_spells spells, if_pos (by omega), Int.toNat_natCast, Int.toNat_natCast]
  | outOfRange spells beyond =>
      rw [read_of_spells spells, if_neg fun within => beyond ⟨⟨within.1, within.2.1⟩, within.2.2⟩]
  | malformed none => exact read_of_not_spells none

theorem exists_reads (text : String) : ∃ result, Reads text result := by
  by_cases spelled : ∃ high low, Spells text.toList high low
  · obtain ⟨high, low, spells⟩ := spelled
    by_cases within : IsHalf high ∧ IsHalf low
    · obtain ⟨⟨upperSign, upperHalf⟩, lowerSign, lowerHalf⟩ := within
      lift high to Nat using upperSign
      lift low to Nat using lowerSign
      exact ⟨_, .position spells (Int.ofNat_lt.mp upperHalf) (Int.ofNat_lt.mp lowerHalf)⟩
    · exact ⟨_, .outOfRange spells within⟩
  · exact ⟨_, .malformed fun high low spells => spelled ⟨high, low, spells⟩⟩

theorem reads_of_read_eq (outcome : read text = result) : Reads text result := by
  obtain ⟨other, reads⟩ := exists_reads text
  rw [reads.read_eq] at outcome
  rwa [outcome] at reads

end Reading

/-- A text has exactly the outcome that its spelling gives it, and the plain spellings are those of
slashes and digits alone. -/
theorem read_eq_iff (text : String) :
    (∀ result, read text = result ↔ Reads text result) ∧
      ∀ high low, Plain text.toList high low ↔
        Spells text.toList high low ∧
          ∀ c ∈ trimBy isBlank text.toList, c = '/' ∨ (hexDigit? c).isSome = true := by
  refine ⟨fun result => ⟨reads_of_read_eq, Reads.read_eq⟩, fun high low => ⟨?_, ?_⟩⟩
  · intro plain
    exact ⟨plain.spells, plain.allowed⟩
  · rintro ⟨spells, allowed⟩
    exact spells.plain allowed

/-- The mark of the base may stand in front of a half. -/
example : read "0x16/B3" = .ok (0x16 * halfSize + 0xB3) := by decide +kernel

end WalCheckpoint.Lsn
