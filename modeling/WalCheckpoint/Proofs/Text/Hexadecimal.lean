import Mathlib.Data.List.Induction
import WalCheckpoint.Proofs.Text.Numeral

namespace WalCheckpoint.Text.Numeral

/-! Numerals to the base sixteen: which texts are read as them, and how they are written. -/

/-- A hexadecimal digit is one of ASCII or a decimal digit of any script. -/
def hexValue? (c : Char) : Option Nat :=
  (hexDigit? c).or (digitValue? c)

/-- What may stand in front of the digits to say that the base is sixteen. -/
inductive BaseMark : List Char → Prop
  | absent : BaseMark []
  | given {zero letter : Char} {gap : List Char} (value : digitValue? zero = some 0)
      (lettered : letter ∈ ['x', 'X']) (single : gap ∈ [[], ['_']]) :
      BaseMark (zero :: letter :: gap)

/-- A text that stands for a whole number to the base sixteen. -/
inductive Hexadecimal : List Char → Int → Prop
  | intro {sign mark cs : List Char} {factor : Int} {digits : List Nat}
      (signed : (sign, factor) ∈ signs) (marked : BaseMark mark)
      (body : Grouped hexValue? cs digits) :
      Hexadecimal (sign ++ (mark ++ cs)) (factor * (Nat.ofDigits 16 digits.reverse : Nat))

section Characters

variable {c : Char} {digit : Nat}

theorem toNat_of_hexDigit? (value : hexDigit? c = some digit) :
    c.toNat < 127 ∧ digit < 16 := by
  simp only [hexDigit?, Char.isDigit, Bool.and_eq_true, decide_eq_true_eq, Char.le_def,
    UInt32.le_iff_toNat_le] at value
  have code : c.val.toNat = c.toNat := rfl
  split at value
  · next decimal =>
      obtain rfl := Option.some.inj value
      simp at decimal
      omega
  · split at value
    · next small =>
        obtain rfl := Option.some.inj value
        simp at small
        omega
    · split at value
      · next capital =>
          obtain rfl := Option.some.inj value
          simp at capital
          omega
      · contradiction

theorem hexDigit?_of_large (large : 127 ≤ c.toNat) : hexDigit? c = none := by
  cases value : hexDigit? c with
  | none => rfl
  | some digit => exact absurd (toNat_of_hexDigit? value).1 (Nat.not_lt.mpr large)

theorem digitBelow?_sixteen (c : Char) : digitBelow? 16 c = hexDigit? c := by
  rw [digitBelow?]
  cases value : hexDigit? c with
  | none => rfl
  | some digit => simp [(toNat_of_hexDigit? value).2]

theorem hexDigit?_of_digitValue? (ascii : c.toNat < 127) (value : digitValue? c = some digit) :
    hexDigit? c = some digit := by
  rw [← digitBelow?_ascii ascii] at value
  exact (Option.filter_eq_some_iff.mp value).1

theorem hexValue?_ascii (ascii : c.toNat < 127) : hexValue? c = hexDigit? c := by
  rw [hexValue?]
  cases hex : hexDigit? c with
  | some digit => rfl
  | none =>
      cases value : digitValue? c with
      | none => rfl
      | some digit =>
          rw [hexDigit?_of_digitValue? ascii value] at hex
          contradiction

theorem hexValue?_of_large (large : 127 ≤ c.toNat) : hexValue? c = digitValue? c := by
  rw [hexValue?, hexDigit?_of_large large]
  rfl

theorem hexDigit?_written (small : digit < 10) :
    hexDigit? (Char.ofNat (48 + digit)) = some digit := by
  revert digit
  decide +kernel

theorem hexDigit?_plainChar (c : Char) : hexDigit? (plainChar c) = hexValue? c := by
  have read := readAs_plainChar c
  generalize plainChar c = d at read ⊢
  cases read with
  | ascii small => exact (hexValue?_ascii small).symm
  | blank large blank =>
      rw [hexValue?_of_large large]
      cases value : digitValue? c with
      | none => decide
      | some digit => rw [isBlank_of_digitValue? value] at blank; contradiction
  | digit large value =>
      rw [hexValue?_of_large large, value, hexDigit?_written (digitValue?_lt value)]
  | other large solid unread =>
      rw [hexValue?_of_large large, unread]
      decide

theorem hexValue?_of_mem_marks {mark : Char} (marked : mark ∈ marks) : hexValue? mark = none :=
  forall_marks (P := fun mark => hexValue? mark = none) (by decide) marked

theorem hexValue?_of_digitValue? (value : digitValue? c = some digit) :
    hexValue? c = some digit := by
  rcases Nat.lt_or_ge c.toNat 127 with small | large
  · rw [hexValue?_ascii small, hexDigit?_of_digitValue? small value]
  · rw [hexValue?_of_large large, value]

theorem isBlank_of_hexValue? (value : hexValue? c = some digit) : isBlank c = false := by
  rcases Option.or_eq_some_iff.mp value with hex | ⟨-, decimal⟩
  · apply of_ascii (P := fun c => (hexDigit? c).isSome = true → isBlank c = false)
      (by decide +kernel) (toNat_of_hexDigit? hex).1
    rw [hex]
    rfl
  · exact isBlank_of_digitValue? decimal

theorem plainChar_eq_zero_iff : plainChar c = '0' ↔ digitValue? c = some 0 := by
  have written : ∀ digit < 10, (Char.ofNat (48 + digit) = '0' ↔ digit = 0) := by
    decide +kernel
  have read := readAs_plainChar c
  generalize plainChar c = d at read ⊢
  cases read with
  | ascii small =>
      rw [← digitBelow?_ascii small]
      exact of_ascii (P := fun c => c = '0' ↔ digitBelow? 10 c = some 0) (by decide +kernel) small
  | blank large blank =>
      refine iff_of_false (by decide) fun value => ?_
      rw [isBlank_of_digitValue? value] at blank
      contradiction
  | digit large value => rw [written _ (digitValue?_lt value), value, Option.some.injEq]
  | other large solid unread => exact iff_of_false (by decide) (by simp [unread])

theorem plainChar_lt (c : Char) : (plainChar c).toNat < 127 := by
  have written : ∀ digit < 10, (Char.ofNat (48 + digit)).toNat < 127 := by decide +kernel
  have read := readAs_plainChar c
  generalize plainChar c = d at read ⊢
  cases read with
  | ascii small => exact small
  | blank => decide
  | digit large value => exact written _ (digitValue?_lt value)
  | other => decide

theorem toLower_plainChar_eq_iff : (plainChar c).toLower = 'x' ↔ c ∈ ['x', 'X'] := by
  have letters : (plainChar c).toLower = 'x' ↔ plainChar c = 'x' ∨ plainChar c = 'X' :=
    of_ascii (P := fun d => d.toLower = 'x' ↔ d = 'x' ∨ d = 'X') (by decide +kernel) (plainChar_lt c)
  rw [letters, plainChar_eq_iff (by decide), plainChar_eq_iff (by decide)]
  simp

end Characters

/-! The mark of the base, and what is left behind it. -/

section Marks

variable {zero letter : Char} {mark cs : List Char} {digits : List Nat}

/-- Behind the mark one underscore may stand, and is dropped with it. -/
theorem dropBaseMark_given {gap : List Char} (value : digitValue? zero = some 0)
    (lettered : letter ∈ ['x', 'X']) (single : gap ∈ [[], ['_']])
    (ends : gap = [] → ∀ c ∈ cs.head?, c ≠ '_') :
    dropBaseMark 16 ((zero :: letter :: (gap ++ cs)).map plainChar) = cs.map plainChar := by
  have plainZero : plainChar zero = '0' := plainChar_eq_zero_iff.mpr value
  have plainLetter : some (plainChar letter).toLower = baseMark? 16 :=
    congrArg some (toLower_plainChar_eq_iff.mpr lettered)
  rw [List.map_cons, List.map_cons, plainZero, dropBaseMark.eq_def]
  show (if some (plainChar letter).toLower = baseMark? 16 then _ else _) = _
  rw [if_pos plainLetter]
  simp only [List.mem_cons, List.not_mem_nil, or_false] at single
  rcases single with rfl | rfl
  · cases cs with
    | nil => rfl
    | cons c rest =>
        have other : plainChar c ≠ '_' := fun same =>
          ends rfl c rfl ((plainChar_eq_iff (by decide)).mp same)
        rw [List.nil_append, List.map_cons]
        split
        · next same => exact absurd (List.cons.inj same).1 other
        · rfl
  · have plain : plainChar '_' = '_' := (plainChar_eq_iff (by decide)).mpr rfl
    rw [List.cons_append, List.nil_append, List.map_cons, plain]
    rfl

theorem dropBaseMark_absent
    (unmarked : ∀ zero letter rest, cs = zero :: letter :: rest →
      digitValue? zero = some 0 → letter ∉ ['x', 'X']) :
    dropBaseMark 16 (cs.map plainChar) = cs.map plainChar := by
  rw [dropBaseMark.eq_def]
  split
  · next spelled =>
      obtain ⟨zero, more, rfl, plainZero, spelled⟩ := List.map_eq_cons_iff.mp spelled
      obtain ⟨letter, rest, rfl, rfl, rfl⟩ := List.map_eq_cons_iff.mp spelled
      have value : digitValue? zero = some 0 := plainChar_eq_zero_iff.mp plainZero
      rw [if_neg, List.map_cons, List.map_cons, plainZero]
      intro same
      have lower : (plainChar letter).toLower = 'x' := Option.some.inj same
      exact unmarked zero letter rest rfl value (toLower_plainChar_eq_iff.mp lower)
  · rfl

theorem exists_underscore (rest : List Char) :
    ∃ gap body, rest = gap ++ body ∧ gap ∈ [[], ['_']] ∧
      (gap = [] → ∀ c ∈ body.head?, c ≠ '_') := by
  cases rest with
  | nil => exact ⟨[], [], rfl, by decide, fun _ => nofun⟩
  | cons c more =>
      by_cases underscore : c = '_'
      · exact ⟨['_'], more, by rw [underscore]; rfl, by decide, nofun⟩
      · refine ⟨[], c :: more, rfl, by decide, fun _ d first => ?_⟩
        obtain rfl := Option.some.inj first
        exact underscore

theorem exists_baseMark (cs : List Char) :
    ∃ mark body, cs = mark ++ body ∧ BaseMark mark ∧
      dropBaseMark 16 (cs.map plainChar) = body.map plainChar := by
  by_cases marked : ∃ zero letter rest, cs = zero :: letter :: rest ∧
      digitValue? zero = some 0 ∧ letter ∈ ['x', 'X']
  · obtain ⟨zero, letter, rest, rfl, value, lettered⟩ := marked
    obtain ⟨gap, body, rfl, single, ends⟩ := exists_underscore rest
    exact ⟨zero :: letter :: gap, body, rfl, .given value lettered single,
      dropBaseMark_given value lettered single ends⟩
  · refine ⟨[], cs, rfl, .absent, dropBaseMark_absent ?_⟩
    intro zero letter rest spelled value lettered
    exact marked ⟨zero, letter, rest, spelled, value, lettered⟩

theorem Grouped.unlettered (body : Grouped hexValue? cs digits) : ∀ c ∈ cs, c ∉ ['x', 'X'] := by
  apply Grouped.forall (P := fun c => c ∉ ['x', 'X']) (by decide) _ body
  intro c digit value lettered
  have marked : c ∈ marks := List.mem_of_mem_drop (i := 3) lettered
  rw [hexValue?_of_mem_marks marked] at value
  contradiction

theorem dropBaseMark_marked (marked : BaseMark mark) (body : Grouped hexValue? cs digits) :
    dropBaseMark 16 ((mark ++ cs).map plainChar) = cs.map plainChar := by
  cases marked with
  | absent =>
      apply dropBaseMark_absent
      rintro zero letter rest rfl value
      exact body.unlettered letter (List.mem_cons_of_mem zero List.mem_cons_self)
  | given value lettered single =>
      apply dropBaseMark_given value lettered single
      intro none c first
      obtain ⟨d, rest, digit, rfl, digitValue⟩ := body.head
      obtain rfl := Option.some.inj first
      rintro rfl
      rw [hexValue?_of_mem_marks (by decide)] at digitValue
      contradiction

theorem unsigned_marked (marked : BaseMark mark) (body : Grouped hexValue? cs digits) :
    ∀ c ∈ (mark ++ cs).head?, c ≠ '-' ∧ c ≠ '+' := by
  cases marked with
  | absent => exact body.unsigned (hexValue?_of_mem_marks (by decide)) (hexValue?_of_mem_marks (by decide))
  | given value lettered single =>
      intro c first
      obtain rfl := Option.some.inj first
      constructor
      · rintro rfl
        rw [digitValue?_of_mem_marks (by decide)] at value
        contradiction
      · rintro rfl
        rw [digitValue?_of_mem_marks (by decide)] at value
        contradiction

end Marks

/-! The reading of a whole text. -/

section Reading

variable {mark cs : List Char} {digits : List Nat} {n : Int}

theorem digits?_sixteen_iff :
    digits? (digitBelow? 16) (cs.map plainChar) = some digits ↔ Grouped hexValue? cs digits := by
  have values : digitBelow? 16 ∘ plainChar = hexValue? := by
    funext c
    exact (digitBelow?_sixteen _).trans (hexDigit?_plainChar c)
  rw [digits?_map fun c => plainChar_eq_iff (by decide), values,
    digits?_eq_some_iff (hexValue?_of_mem_marks (by decide))]

theorem hexadecimal?_map (cs : List Char) :
    hexadecimal? cs =
      let parts := splitSign ((trimBy isGap cs).map plainChar)
      (digits? (digitBelow? 16) (dropBaseMark 16 parts.2)).map fun digits =>
        signed parts.1 (ofDigits 16 digits) := by
  rw [hexadecimal?, inBase?, trimBy_plainChar]
  dsimp only
  cases digits? (digitBelow? 16)
    (dropBaseMark 16 (splitSign ((trimBy isGap cs).map plainChar)).2) <;> rfl

theorem Hexadecimal.hexadecimal?_eq (spelled : Hexadecimal (trimBy isGap cs) n) :
    hexadecimal? cs = some n := by
  rw [hexadecimal?_map]
  generalize trimBy isGap cs = body at spelled ⊢
  obtain ⟨signed, marked, body⟩ := spelled
  have splits := splits_signed signed (unsigned_marked marked body)
  dsimp only
  rw [splits.rest, dropBaseMark_marked marked body, digits?_sixteen_iff.mpr body, Option.map_some,
    splits.sign, ofDigits_eq]

theorem Hexadecimal.of_hexadecimal? (read : hexadecimal? cs = some n) :
    Hexadecimal (trimBy isGap cs) n := by
  rw [hexadecimal?_map] at read
  generalize trimBy isGap cs = body at read ⊢
  obtain ⟨sign, factor, unsigned, rfl, signed, splits⟩ := exists_splits body
  obtain ⟨mark, body, rfl, marked, unmarked⟩ := exists_baseMark unsigned
  dsimp only at read
  rw [splits.rest, unmarked] at read
  obtain ⟨digits, digitsRead, rfl⟩ := Option.map_eq_some_iff.mp read
  rw [splits.sign, ofDigits_eq]
  exact .intro signed marked (digits?_sixteen_iff.mp digitsRead)

/-- A text is read to the base sixteen exactly where, without the gaps around it, it stands for that
number. -/
theorem hexadecimal?_eq_some_iff : hexadecimal? cs = some n ↔ Hexadecimal (trimBy isGap cs) n :=
  ⟨.of_hexadecimal?, Hexadecimal.hexadecimal?_eq⟩

end Reading

/-! Numerals as they are, character by character. -/

section Spelling

variable {cs : List Char} {n : Int}

/-- What is true of each mark and of each digit is true of all characters of a numeral. -/
theorem Hexadecimal.forall {P : Char → Prop} (mark : ∀ c ∈ marks, P c)
    (each : ∀ c digit, hexValue? c = some digit → P c) (spelled : Hexadecimal cs n) :
    ∀ c ∈ cs, P c := by
  obtain ⟨signed, marked, body⟩ := spelled
  have inSign : ∀ entry ∈ signs, entry.1 ⊆ marks := by decide
  have digits := body.forall (mark '_' (by decide)) each
  refine List.forall_mem_append.mpr ⟨fun c member => mark c (inSign _ signed member),
    List.forall_mem_append.mpr ⟨?_, digits⟩⟩
  cases marked with
  | absent => exact List.forall_mem_nil _
  | given value lettered single =>
      have inGap : ∀ gap ∈ [[], ['_']], gap ⊆ marks := by decide
      exact List.forall_mem_cons.mpr ⟨each _ _ (hexValue?_of_digitValue? value),
        List.forall_mem_cons.mpr ⟨mark _ (List.mem_of_mem_drop (i := 3) lettered),
          fun c member => mark c (inGap _ single member)⟩⟩

theorem Hexadecimal.isBlank (spelled : Hexadecimal cs n) : ∀ c ∈ cs, isBlank c = false :=
  spelled.forall (fun _ marked => isBlank_of_mem_marks marked)
    fun _ _ value => isBlank_of_hexValue? value

theorem Hexadecimal.ne_nil (spelled : Hexadecimal cs n) : cs ≠ [] := by
  obtain ⟨signed, marked, body⟩ := spelled
  obtain ⟨c, rest, digit, rfl, value⟩ := body.head
  simp

/-- Hexadecimal digits of ASCII, one or more, with nothing else among them. -/
inductive PlainHex : List Char → Nat → Prop
  | intro {cs : List Char} {digits : List Nat} (filled : cs ≠ [])
      (values : cs.map hexDigit? = digits.map some) :
      PlainHex cs (Nat.ofDigits 16 digits.reverse)

theorem hexValue?_of_hexDigit? {c : Char} {digit : Nat} (value : hexDigit? c = some digit) :
    hexValue? c = some digit := by
  rw [hexValue?, value]
  rfl

theorem grouped_of_values {digits : List Nat} (filled : cs ≠ [])
    (values : cs.map hexDigit? = digits.map some) : Grouped hexValue? cs digits := by
  induction cs generalizing digits with
  | nil => exact absurd rfl filled
  | cons c rest induction =>
      cases digits with
      | nil => contradiction
      | cons digit more =>
          rw [List.map_cons, List.map_cons, List.cons.injEq] at values
          have value := hexValue?_of_hexDigit? values.1
          cases rest with
          | nil =>
              obtain rfl : more = [] := by simpa using values.2.symm
              exact .last value
          | cons d rest => exact .next value (induction (List.cons_ne_nil d rest) values.2)

theorem PlainHex.hexadecimal {n : Nat} (plain : PlainHex cs n) : Hexadecimal cs n := by
  obtain ⟨filled, values⟩ := plain
  have spelled : Hexadecimal ([] ++ ([] ++ cs)) _ :=
    .intro (by decide : ([], 1) ∈ signs) .absent (grouped_of_values filled values)
  rwa [Int.one_mul] at spelled

theorem PlainHex.digits {n : Nat} (plain : PlainHex cs n) :
    ∀ c ∈ cs, (hexDigit? c).isSome = true := by
  obtain ⟨-, values⟩ := plain
  intro c member
  have read := List.mem_map_of_mem (f := hexDigit?) member
  rw [values] at read
  obtain ⟨digit, -, same⟩ := List.mem_map.mp read
  rw [← same]
  rfl

theorem not_marked (ascii : ∀ c ∈ cs, (hexDigit? c).isSome = true) : ∀ c ∈ marks, c ∉ cs := by
  intro c marked member
  have digit := ascii c member
  have none : (hexDigit? c).isSome = false :=
    forall_marks (P := fun c => (hexDigit? c).isSome = false) (by decide) marked
  rw [none] at digit
  contradiction

theorem values_of_grouped {digits : List Nat} (body : Grouped hexValue? cs digits)
    (ascii : ∀ c ∈ cs, (hexDigit? c).isSome = true) : cs.map hexDigit? = digits.map some := by
  have here {c : Char} {digit : Nat} (value : hexValue? c = some digit)
      (read : (hexDigit? c).isSome = true) : hexDigit? c = some digit := by
    rw [← value, hexValue?, Option.or_of_isSome read]
  induction body with
  | last value => rw [List.map_singleton, here value (ascii _ List.mem_cons_self)]; rfl
  | next value rest induction =>
      obtain ⟨first, later⟩ := List.forall_mem_cons.mp ascii
      rw [List.map_cons, here value first, induction later, List.map_cons]
  | spaced value rest induction => exact absurd (by simp) (not_marked ascii '_' (by decide))

/-- A numeral of digits of ASCII alone has no sign and no mark of the base. -/
theorem Hexadecimal.plain (spelled : Hexadecimal cs n)
    (ascii : ∀ c ∈ cs, (hexDigit? c).isSome = true) : ∃ k : Nat, n = k ∧ PlainHex cs k := by
  obtain ⟨signed, marked, body⟩ := spelled
  obtain ⟨inSign, rest⟩ := List.forall_mem_append.mp ascii
  obtain ⟨inMark, inBody⟩ := List.forall_mem_append.mp rest
  cases marked with
  | given value lettered single =>
      exact absurd (List.mem_cons_of_mem _ List.mem_cons_self)
        (not_marked inMark _ (List.mem_of_mem_drop (i := 3) lettered))
  | absent =>
      simp only [signs, List.mem_cons, List.not_mem_nil, or_false, Prod.mk.injEq] at signed
      rcases signed with ⟨rfl, rfl⟩ | ⟨rfl, rfl⟩ | ⟨rfl, rfl⟩
      · refine ⟨_, Int.one_mul _, .intro ?_ (values_of_grouped body inBody)⟩
        obtain ⟨c, rest, digit, rfl, -⟩ := body.head
        simp
      · exact absurd List.mem_cons_self (not_marked inSign '+' (by decide))
      · exact absurd List.mem_cons_self (not_marked inSign '-' (by decide))

end Spelling

/-! Numerals that are written. -/

def upperDigits : List Char := "0123456789ABCDEF".toList

theorem digitChar_toUpper {digit : Nat} (small : digit < 16) :
    hexDigit? (Nat.digitChar digit).toUpper = some digit ∧
      (Nat.digitChar digit).toUpper ∈ upperDigits := by
  revert digit
  decide

theorem upperHex_ne_nil (n : Nat) : upperHex n ≠ [] := by
  rw [upperHex, Ne, List.map_eq_nil_iff]
  exact Nat.toDigits_ne_nil

theorem plainHex_upperHex (n : Nat) : PlainHex (upperHex n) n := by
  obtain ⟨digits, written, below, told⟩ := Nat.exists_toDigits (by decide : 1 < 16) n
  have values : (upperHex n).map hexDigit? = digits.map some := by
    rw [upperHex, written, List.map_map, List.map_map]
    exact List.map_congr_left fun digit member => (digitChar_toUpper (below digit member)).1
  have plain := PlainHex.intro (upperHex_ne_nil n) values
  rwa [told] at plain

theorem upperDigit_of_mem_upperHex {n : Nat} : ∀ c ∈ upperHex n, c ∈ upperDigits := by
  obtain ⟨digits, written, below, -⟩ := Nat.exists_toDigits (by decide : 1 < 16) n
  rw [upperHex, written, List.map_map]
  exact List.forall_mem_map.mpr fun digit member => (digitChar_toUpper (below digit member)).2

theorem length_upperHex_le_iff {n limit : Nat} (positive : 0 < limit) :
    (upperHex n).length ≤ limit ↔ n < 16 ^ limit := by
  rw [upperHex, List.length_map]
  exact Nat.length_toDigits_le_iff (by decide) positive

theorem upperHex_ne_zero_cons {n : Nat} (positive : 0 < n) (cs : List Char) :
    upperHex n ≠ '0' :: cs := by
  intro same
  obtain ⟨c, rest, written, zero, -⟩ := List.map_eq_cons_iff.mp same
  obtain ⟨digits, spelled, below, -⟩ := Nat.exists_toDigits (by decide : 1 < 16) n
  obtain ⟨digit, more, rfl, rfl, -⟩ := List.map_eq_cons_iff.mp (spelled.symm.trans written)
  have kept : ∀ digit < 16, (Nat.digitChar digit).toUpper = '0' → Nat.digitChar digit = '0' := by
    decide
  rw [kept digit (below digit List.mem_cons_self) zero] at written
  exact Nat.toDigits_ne_zero_cons (by decide) positive rest written

theorem upperHex_append {n digit : Nat} (positive : 0 < n) (small : digit < 16) :
    upperHex (16 * n + digit) = upperHex n ++ [(Nat.digitChar digit).toUpper] := by
  rw [upperHex, ← Nat.toDigits_append_toDigits (by decide) positive small, List.map_append,
    Nat.toDigits_of_lt_base small]
  rfl

theorem exists_digitChar {c : Char} (member : c ∈ upperDigits) :
    ∃ digit < 16, (Nat.digitChar digit).toUpper = c := by
  have all : upperDigits = (List.range 16).map fun digit => (Nat.digitChar digit).toUpper := by
    decide
  rw [all] at member
  obtain ⟨digit, below, same⟩ := List.mem_map.mp member
  exact ⟨digit, List.mem_range.mp below, same⟩

/-- What could be the numeral of a number is that of one. -/
theorem exists_upperHex {cs : List Char} (filled : cs ≠ []) (digits : ∀ c ∈ cs, c ∈ upperDigits)
    (unpadded : ∀ rest, cs = '0' :: rest → rest = []) : ∃ n, upperHex n = cs := by
  induction cs using List.reverseRecOn with
  | nil => exact absurd rfl filled
  | append_singleton front c induction =>
      obtain ⟨inFront, last⟩ := List.forall_mem_append.mp digits
      obtain ⟨digit, small, rfl⟩ := exists_digitChar (List.forall_mem_singleton.mp last)
      cases front with
      | nil =>
          refine ⟨digit, ?_⟩
          rw [upperHex, Nat.toDigits_of_lt_base small]
          rfl
      | cons first more =>
          have leading : first ≠ '0' := by
            rintro rfl
            exact absurd (unpadded _ rfl) (by simp)
          obtain ⟨n, written⟩ := induction (List.cons_ne_nil first more) inFront
            fun rest same => absurd (List.cons.inj same).1 leading
          have positive : 0 < n := by
            apply Nat.pos_of_ne_zero
            rintro rfl
            exact leading (List.cons.inj written).1.symm
          exact ⟨16 * n + digit, by rw [upperHex_append positive small, written]⟩

end WalCheckpoint.Text.Numeral
