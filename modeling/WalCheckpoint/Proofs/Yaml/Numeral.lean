import WalCheckpoint.Proofs.Text.Trim
import WalCheckpoint.Proofs.Yaml.Lexeme
import WalCheckpoint.Yaml.Tag

namespace WalCheckpoint

/-! Whole numbers without leading zeros are known as numbers and read as what they are. -/

theorem isDigit_of_mem_toDigits {n : Nat} {c : Char} (member : c ∈ Nat.toDigits 10 n) :
    c.isDigit = true :=
  Nat.isDigit_of_mem_toDigits (by decide) (by decide) member

theorem toNat_of_isDigit {c : Char} (digit : c.isDigit = true) : 48 ≤ c.toNat ∧ c.toNat ≤ 57 :=
  Char.isDigit_iff_toNat.mp digit

namespace Text.Numeral

variable {cs : List Char}

theorem splitSign_digits (digits : ∀ c ∈ cs, c.isDigit = true) : splitSign cs = (false, cs) := by
  cases cs with
  | nil => rfl
  | cons c cs =>
      have digit := digits c List.mem_cons_self
      have minus : c ≠ '-' := Json.ne_of_isDigit digit rfl
      have plus : c ≠ '+' := Json.ne_of_isDigit digit rfl
      simp [splitSign, minus, plus]

theorem digitBelow?_of_isDigit {c : Char} (digit : c.isDigit = true) :
    digitBelow? 10 c = some (c.toNat - 48) := by
  obtain ⟨low, high⟩ := toNat_of_isDigit digit
  rw [digitBelow?, hexDigit?, if_pos digit, Option.filter_some, if_pos (decide_eq_true (by omega))]

theorem digits?_digits (filled : cs ≠ []) (digits : ∀ c ∈ cs, c.isDigit = true) :
    digits? (digitBelow? 10) cs = some (Json.digitsOf cs) := by
  induction cs with
  | nil => exact absurd rfl filled
  | cons c rest induction =>
      have here := digitBelow?_of_isDigit (digits c List.mem_cons_self)
      have later : ∀ d ∈ rest, d.isDigit = true := fun d member =>
        digits d (List.mem_cons_of_mem c member)
      cases rest with
      | nil => rw [digits?.eq_def]; simp [here, Json.digitsOf]
      | cons d rest =>
          have other : d ≠ '_' := Json.ne_of_isDigit (later d List.mem_cons_self) rfl
          have more := induction (List.cons_ne_nil d rest) later
          rw [digits?.eq_def]
          simp only [here]
          rw [more]
          rfl

theorem inBase?_digits (filled : cs ≠ []) (digits : ∀ c ∈ cs, c.isDigit = true)
    (short : cs.length ≤ digitLimit) :
    inBase? 10 cs = some (Nat.ofDigitChars 10 cs 0) := by
  have ascii (c : Char) (member : c ∈ cs) : c.toNat < 127 ∧ isAsciiBlank c = false := by
    obtain ⟨low, high⟩ := toNat_of_isDigit (digits c member)
    refine ⟨by omega, ?_⟩
    simp only [isAsciiBlank, Bool.or_eq_false_iff, Bool.and_eq_false_iff, decide_eq_false_iff_not,
      beq_eq_false_iff_ne]
    omega
  have plain : cs.map plainChar = cs := by
    refine (List.map_congr_left fun c member => ?_).trans (List.map_id cs)
    rw [plainChar, if_pos (ascii c member).1, id]
  have unmarked : dropBaseMark 10 cs = cs := by
    rw [dropBaseMark.eq_def]
    split
    · rw [if_neg (by simp [baseMark?])]
    · rfl
  rw [inBase?, plain, trimBy_eq_self fun c member => (ascii c member).2]
  simp only [splitSign_digits digits, unmarked, digits?_digits filled digits]
  rw [if_neg (by simp [Json.digitsOf, short]), Json.ofDigits_digitsOf]
  rfl

end Text.Numeral

theorem Text.small_of_lt {c : Char} (below : c.toNat < 0x41) : small c = c := by
  have capitals : ∀ run ∈ capitalRuns, 0x41 ≤ run.first := by decide +kernel
  have none : capitalRuns.find? (CapitalRun.contains · c.toNat) = none := by
    refine List.find?_eq_none.mpr fun run member => ?_
    have later := capitals run member
    simp only [CapitalRun.contains, Bool.and_eq_true, decide_eq_true_eq]
    omega
  rw [small, none]

namespace Yaml

/-- A word that does not begin with a letter is no switch. -/
theorem boolWord?_of_lt {text : String} {c : Char} {rest : List Char}
    (spelled : text.toList = c :: rest) (below : c.toNat < 0x41) : boolWord? text = none := by
  have lowered : ∃ more, Text.lower text = String.ofList (c :: more) := by
    have dotted : c ≠ '\u0130' := by
      rintro rfl
      exact absurd below (by decide)
    have sigma : ¬ (c = '\u03A3' ∧ Text.meetsCased [] = true ∧ (!Text.meetsCased rest) = true) := by
      rintro ⟨rfl, -⟩
      exact absurd below (by decide)
    rw [Text.lower, spelled, Text.lowerAfter, if_neg dotted, if_neg sigma, Text.small_of_lt below]
    exact ⟨_, rfl⟩
  obtain ⟨more, lowered⟩ := lowered
  have letters : ∀ entry ∈ boolWords,
      (entry.1.toList.head?.all fun x => 0x41 ≤ x.toNat) = true := by decide +kernel
  have none : boolWords.find? (fun entry => entry.1 == Text.lower text) = none := by
    refine List.find?_eq_none.mpr fun entry member same => ?_
    have first := letters entry member
    rw [beq_iff_eq.mp same, lowered, String.toList_ofList] at first
    exact absurd (of_decide_eq_true first) (by omega)
  rw [boolWord?, none]
  rfl

namespace Number

section Digits

variable {n : Nat}

theorem not_mem_toDigits {c : Char} (other : c.isDigit = false) : c ∉ Nat.toDigits 10 n := by
  intro member
  rw [isDigit_of_mem_toDigits member] at other
  contradiction

theorem toDigits_cases (n : Nat) :
    n = 0 ∨ ∃ c cs, Nat.toDigits 10 n = c :: cs ∧ c ≠ '0' := by
  rcases Nat.eq_zero_or_pos n with zero | positive
  · exact .inl zero
  · obtain ⟨c, cs, digits⟩ := List.exists_cons_of_ne_nil (Nat.toDigits_ne_nil (n := n) (b := 10))
    refine .inr ⟨c, cs, digits, ?_⟩
    rintro rfl
    exact Nat.toDigits_ne_zero_cons (by decide) positive cs digits

theorem magnitude_toDigits (short : n < Nat.pow 10 Text.Numeral.digitLimit) :
    magnitude (Nat.toDigits 10 n) = .ok (n : Int) := by
  have read : whole 10 (Nat.toDigits 10 n) = .ok (n : Int) := by
    rw [whole, Text.Numeral.inBase?_digits Nat.toDigits_ne_nil (fun c => isDigit_of_mem_toDigits)
      (Nat.length_toDigits_le (by decide) short), Nat.ofDigitChars_ten_toDigits]
    rfl
  have together : ':' ∉ Nat.toDigits 10 n := not_mem_toDigits rfl
  rcases toDigits_cases n with rfl | ⟨c, cs, digits, other⟩
  · rfl
  · rw [digits] at read together ⊢
    rw [magnitude.eq_def]
    split
    · next same => exact absurd same (List.cons_ne_nil c cs)
    · next same => exact absurd (List.head_eq_of_cons_eq same) other
    · next same => exact absurd (List.head_eq_of_cons_eq same) other
    · next same => exact absurd (List.head_eq_of_cons_eq same) other
    · next same => exact absurd (List.head_eq_of_cons_eq same) other
    · rw [if_neg (by simpa using together), read]

theorem isDecimal_toDigits {c : Char} {cs : List Char} (digits : Nat.toDigits 10 n = c :: cs)
    (other : c ≠ '0') : isDecimal (Nat.toDigits 10 n) = true := by
  have together : splitAtColons (Nat.toDigits 10 n) = [Nat.toDigits 10 n] :=
    List.splitOn_eq_singleton (not_mem_toDigits rfl)
  have run : isDigitRun (Nat.toDigits 10 n) = true := by
    have all : ∀ d ∈ Nat.toDigits 10 n, isDigitOr Char.isDigit d = true := fun d member => by
      rw [isDigitOr, isDigit_of_mem_toDigits member, Bool.or_true]
    have first : c.isDigit = true := isDigit_of_mem_toDigits (digits ▸ List.mem_cons_self)
    rw [isDigitRun, List.all_eq_true.mpr all, digits]
    simp [first]
  rw [isDecimal, together]
  dsimp only
  rw [run, digits]
  simpa using other

theorem isInt_toDigits (cs : List Char) (unsigned : (Text.Numeral.splitSign cs).2 =
    Nat.toDigits 10 n) : isInt cs = true := by
  rw [isInt, unsigned]
  rcases toDigits_cases n with rfl | ⟨c, rest, digits, other⟩
  · rfl
  · have decimal := isDecimal_toDigits digits other
    rw [digits] at decimal ⊢
    split
    · next same => exact absurd (List.head_eq_of_cons_eq same) other
    · next same => exact absurd (List.head_eq_of_cons_eq same) other
    · next same => exact absurd (List.head_eq_of_cons_eq same) other
    · next same => exact absurd (List.head_eq_of_cons_eq same) other
    · exact decimal

end Digits

/-- A number with a point is written with a point. -/
theorem isFloat_of_not_mem {cs : List Char} (pointless : '.' ∉ cs)
    (unsigned : '.' ∉ (Text.Numeral.splitSign cs).2) : isFloat cs = false := by
  have whole : ∀ body : List Char, '.' ∉ body → body.dropWhile (· != '.') = [] :=
    fun body none => List.dropWhile_eq_nil_iff.mpr fun c member => by
      simp only [bne_iff_ne]
      rintro rfl
      exact none member
  have pointed : isPointed (Text.Numeral.splitSign cs).2 = false := by
    rw [isPointed, whole _ unsigned]
  have begins : beginsWithPoint cs = false := by
    rw [beginsWithPoint.eq_def]
    split
    · exact absurd List.mem_cons_self pointless
    · rfl
  have differs {body : List Char} (none : '.' ∉ body) (word : String)
      (dotted : '.' ∈ word.toList) : String.ofList body ≠ word := by
    rintro rfl
    rw [String.toList_ofList] at dotted
    exact none dotted
  have special : isSpecial cs = false := by
    simp only [isSpecial, List.contains_eq_mem, List.mem_cons, List.not_mem_nil, or_false,
      differs unsigned ".inf" (by decide), differs unsigned ".Inf" (by decide),
      differs unsigned ".INF" (by decide), differs pointless ".nan" (by decide),
      differs pointless ".NaN" (by decide), differs pointless ".NAN" (by decide), decide_false,
      Bool.or_false]
  rw [isFloat, pointed, begins, special]
  rfl

section Whole

variable (n : Int)

theorem splitSign_toString :
    Text.Numeral.splitSign (toString n).toList = (decide (n < 0), Nat.toDigits 10 n.natAbs) := by
  rw [toList_toString_int]
  by_cases negative : n < 0
  · rw [if_pos negative, Text.Numeral.splitSign, decide_eq_true negative]
  · rw [if_neg negative, Text.Numeral.splitSign_digits fun c => isDigit_of_mem_toDigits,
      decide_eq_false negative]

theorem mem_toString {c : Char} (member : c ∈ (toString n).toList) :
    c = '-' ∨ c.isDigit = true := by
  rw [toList_toString_int] at member
  split at member
  · rcases List.mem_cons.mp member with minus | digit
    · exact .inl minus
    · exact .inr (isDigit_of_mem_toDigits digit)
  · exact .inr (isDigit_of_mem_toDigits member)

theorem readInt_toString {n : Int} (short : n.natAbs < Nat.pow 10 Text.Numeral.digitLimit) :
    readInt (toString n).toList = .ok n := by
  have together : dropUnderscores (toString n).toList = (toString n).toList := by
    refine List.filter_eq_self.mpr fun c member => ?_
    rcases mem_toString n member with rfl | digit
    · rfl
    · exact decide_eq_true (Json.ne_of_isDigit digit rfl)
  rw [readInt, together, splitSign_toString]
  by_cases negative : n < 0
  · simp only [magnitude_toDigits short, decide_eq_true negative, Except.map, if_true]
    rw [show -(n.natAbs : Int) = n by omega]
  · simp only [magnitude_toDigits short, decide_eq_false negative, Except.map]
    rw [if_neg Bool.false_ne_true, show (n.natAbs : Int) = n by omega]

end Whole

end Number

theorem Tag.kindText_toString (n : Int) : kindText (toString n) = toString n := by
  rw [kindText, if_neg]
  rintro ⟨-, last⟩
  rcases Number.mem_toString n (List.mem_of_getLast? last) with minus | digit
  · exact absurd minus (by decide)
  · exact absurd digit (by decide)

theorem Tag.ofPlain_toString (n : Int) : Tag.ofPlain (toString n) = .int := by
  have word : boolWord? (toString n) = none := by
    have filled : (toString n).toList ≠ [] := by
      rw [toList_toString_int]
      split
      · exact List.cons_ne_nil _ _
      · exact Nat.toDigits_ne_nil
    obtain ⟨c, rest, spelled⟩ := List.exists_cons_of_ne_nil filled
    refine boolWord?_of_lt spelled ?_
    rcases Number.mem_toString n (spelled ▸ List.mem_cons_self) with rfl | digit
    · decide
    · exact Nat.lt_of_le_of_lt (toNat_of_isDigit digit).2 (by decide)
  have pointless : '.' ∉ (toString n).toList := fun member => by
    rcases Number.mem_toString n member with minus | digit
    · exact absurd minus (by decide)
    · exact absurd digit (by decide)
  have unsigned : '.' ∉ (Text.Numeral.splitSign (toString n).toList).2 := by
    rw [Number.splitSign_toString]
    exact Number.not_mem_toDigits rfl
  have whole : Number.isInt (toString n).toList = true :=
    Number.isInt_toDigits _ (by rw [Number.splitSign_toString])
  simp only [ofPlain, kindText_toString, word, Number.isFloat_of_not_mem pointless unsigned, whole]
  rfl

end Yaml

end WalCheckpoint
