import WalCheckpoint.Proofs.Lsn.Read

namespace WalCheckpoint.Lsn

open Text.Numeral (upperDigits upperHex plainHex_upperHex)

/-! The written form of a position. Each position has one, and each text that is read has the one of
its position. -/

/-- A numeral of at most eight digits, with no zero in front of another digit. -/
structure CanonicalHalf (cs : List Char) : Prop where
  filled : cs ≠ []
  short : cs.length ≤ 8
  digits : ∀ c ∈ cs, c ∈ upperDigits
  unpadded : ∀ rest, cs = '0' :: rest → rest = []

/-- Two such numerals with a slash between them, and nothing else. -/
inductive Canonical : List Char → Prop
  | intro {upper lower : List Char} (upperHalf : CanonicalHalf upper)
      (lowerHalf : CanonicalHalf lower) : Canonical (upper ++ '/' :: lower)

section Halves

variable {n : Nat} (position : Int)

theorem canonicalHalf_upperHex (below : n < halfSize) : CanonicalHalf (upperHex n) where
  filled := Text.Numeral.upperHex_ne_nil n
  short := (Text.Numeral.length_upperHex_le_iff (by decide)).mpr below
  digits := Text.Numeral.upperDigit_of_mem_upperHex
  unpadded := by
    intro rest same
    rcases Nat.eq_zero_or_pos n with rfl | positive
    · have zero : upperHex 0 = ['0'] := by decide
      rw [zero] at same
      exact (List.cons.inj same).2.symm
    · exact absurd same (Text.Numeral.upperHex_ne_zero_cons positive rest)

theorem CanonicalHalf.exists_upperHex {cs : List Char} (half : CanonicalHalf cs) :
    ∃ n < halfSize, upperHex n = cs := by
  obtain ⟨n, written⟩ := Text.Numeral.exists_upperHex half.filled half.digits half.unpadded
  have short : (upperHex n).length ≤ 8 := written ▸ half.short
  exact ⟨n, (Text.Numeral.length_upperHex_le_iff (by decide)).mp short, written⟩

theorem upperHalf_lt : upperHalf position < halfSize := by
  rw [upperHalf, halfSize]
  omega

theorem lowerHalf_lt : lowerHalf position < halfSize := by
  rw [lowerHalf, halfSize]
  omega

/-- The two halves are the position, as far as it goes into 64 bits. -/
theorem halves_eq : upperHalf position * halfSize + lowerHalf position = (position % size).toNat := by
  simp only [upperHalf, lowerHalf, size, halfSize]
  omega

theorem halves_of_lt {high low : Nat} (upper : high < halfSize) (lower : low < halfSize) :
    upperHalf (high * halfSize + low) = high ∧ lowerHalf (high * halfSize + low) = low := by
  simp only [upperHalf, lowerHalf, halfSize] at *
  omega

theorem halves_mod :
    upperHalf (position % size) = upperHalf position ∧
      lowerHalf (position % size) = lowerHalf position := by
  simp only [upperHalf, lowerHalf, size, halfSize]
  omega

end Halves

section Format

variable (position : Int)

theorem toList_format :
    (format position).toList = upperHex (upperHalf position) ++ '/' :: upperHex (lowerHalf position) :=
  String.toList_ofList

theorem canonical_format : Canonical (format position).toList := by
  rw [toList_format]
  exact .intro (canonicalHalf_upperHex (upperHalf_lt position))
    (canonicalHalf_upperHex (lowerHalf_lt position))

/-- The canonical texts are the written forms, and no others. -/
theorem canonical_iff {text : String} : Canonical text.toList ↔ ∃ position, format position = text := by
  constructor
  · intro canonical
    generalize spelled : text.toList = cs at canonical
    obtain ⟨upper, lower⟩ := canonical
    obtain ⟨high, belowHigh, rfl⟩ := upper.exists_upperHex
    obtain ⟨low, belowLow, rfl⟩ := lower.exists_upperHex
    obtain ⟨upper, lower⟩ := halves_of_lt belowHigh belowLow
    exact ⟨high * halfSize + low, by rw [format, upper, lower, ← spelled, String.ofList_toList]⟩
  · rintro ⟨position, rfl⟩
    exact canonical_format position

theorem plain_format : Plain (format position).toList (upperHalf position) (lowerHalf position) := by
  rw [toList_format]
  have plain := Plain.intro (List.forall_mem_nil _) (plainHex_upperHex (upperHalf position))
    (plainHex_upperHex (lowerHalf position)) (List.forall_mem_nil _)
  rwa [List.append_nil] at plain

theorem reads_format : Reads (format position) (.ok (position % size).toNat) := by
  rw [← halves_eq]
  exact .position (plain_format position).spells (upperHalf_lt position) (lowerHalf_lt position)

theorem format_mod : format (position % size) = format position := by
  obtain ⟨upper, lower⟩ := halves_mod position
  rw [format, upper, lower, format]

theorem emod_size_nonneg : 0 ≤ position % size :=
  Int.emod_nonneg position (by decide)

end Format

theorem format_eq_iff {n m : Int} : format n = format m ↔ n % size = m % size := by
  constructor
  · intro same
    have read := (reads_format n).read_eq
    rw [same, (reads_format m).read_eq] at read
    have positions := Except.ok.inj read
    have left := emod_size_nonneg n
    have right := emod_size_nonneg m
    omega
  · intro same
    rw [← format_mod n, ← format_mod m, same]

theorem lt_of_reads {text : String} {value : Nat} (reads : Reads text (.ok value)) :
    value < size := by
  cases reads with
  | position spells upperHalf lowerHalf =>
      simp only [size, halfSize] at *
      omega

theorem mod_of_lt {value : Nat} (below : value < size) : (value : Int) % size = value :=
  Int.emod_eq_of_lt (Int.natCast_nonneg value) (Int.ofNat_lt.mpr below)

theorem read_format_of_lt {value : Nat} (below : value < size) :
    read (format value) = .ok value := by
  rw [(reads_format value).read_eq, mod_of_lt below, Int.toNat_natCast]

theorem format_inj_of_lt {value value' : Nat} (below : value < size) (below' : value' < size) :
    format value = format value' ↔ value = value' := by
  rw [format_eq_iff, mod_of_lt below, mod_of_lt below', Int.natCast_inj]

/-- The written form stands for the 64 bits of a position, for nothing less and nothing more, and is
the same for all texts that are read as it. Nothing else looks like a written form. -/
theorem format_canonical :
    (∀ n : Int, read (format n) = .ok (n % size).toNat) ∧
      (∀ n m : Int, format n = format m ↔ n % size = m % size) ∧
      (∀ value < size, read (format value) = .ok value) ∧
      (∀ text value, read text = .ok value →
        value < size ∧ Canonical (format value).toList ∧ read (format value) = .ok value) ∧
      (∀ text text' value value', read text = .ok value → read text' = .ok value' →
        (value = value' ↔ format value = format value')) ∧
      ∀ text, Canonical text.toList ↔ ∃ n, format n = text := by
  refine ⟨fun n => (reads_format n).read_eq, fun n m => format_eq_iff,
    fun value below => read_format_of_lt below, ?_, ?_, fun text => canonical_iff⟩
  · intro text value outcome
    have below := lt_of_reads (reads_of_read_eq outcome)
    exact ⟨below, canonical_format value, read_format_of_lt below⟩
  · intro text text' value value' outcome outcome'
    exact (format_inj_of_lt (lt_of_reads (reads_of_read_eq outcome))
      (lt_of_reads (reads_of_read_eq outcome'))).symm

theorem format_canonical_respelled :
    read " 0016/b3" = .ok 0x16000000B3 ∧ read "+16/0xB3" = .ok 0x16000000B3 ∧
      (read (format 0x16000000B3) = .ok 0x16000000B3 ∧ Canonical (format 0x16000000B3).toList) ∧
      format 0x16000000B3 = format (0x16000000B3 - size) := by
  have padded : read " 0016/b3" = .ok 0x16000000B3 := by decide +kernel
  have marked : read "+16/0xB3" = .ok 0x16000000B3 := by decide +kernel
  obtain ⟨-, sameText, -, accepted, -⟩ := format_canonical
  obtain ⟨-, canonical, again⟩ := accepted _ _ padded
  exact ⟨padded, marked, ⟨again, canonical⟩, (sameText _ _).mpr (by decide)⟩

end WalCheckpoint.Lsn
