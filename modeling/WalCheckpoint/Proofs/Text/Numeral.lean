import WalCheckpoint.Proofs.Text.Digits
import WalCheckpoint.Proofs.Text.Trim

namespace WalCheckpoint.Text.Numeral

/-! The texts that are read as whole numbers, by their grammar: white space, a sign or none, digits
of any script with single underscores between them, and white space again. -/

/-- One or more digits of any script, with single underscores between them. -/
inductive Digits : List Char → List Nat → Prop
  | last {c : Char} {digit : Nat} (value : digitValue? c = some digit) : Digits [c] [digit]
  | next {c : Char} {digit : Nat} {cs : List Char} {digits : List Nat}
      (value : digitValue? c = some digit) (rest : Digits cs digits) :
      Digits (c :: cs) (digit :: digits)
  | spaced {c : Char} {digit : Nat} {cs : List Char} {digits : List Nat}
      (value : digitValue? c = some digit) (rest : Digits cs digits) :
      Digits (c :: '_' :: cs) (digit :: digits)

/-- Signs, with what they multiply a number by. -/
def signs : List (List Char × Int) := [([], 1), (['+'], 1), (['-'], -1)]

/-- A text that stands for a whole number, with as many digits as are ever read at most. -/
inductive Spells : List Char → Int → Prop
  | intro {before sign cs after : List Char} {factor : Int} {digits : List Nat}
      (blankBefore : ∀ c ∈ before, isBlank c = true) (signed : (sign, factor) ∈ signs)
      (body : Digits cs digits) (short : digits.length ≤ digitLimit)
      (blankAfter : ∀ c ∈ after, isBlank c = true) :
      Spells (before ++ (sign ++ cs) ++ after) (factor * (Nat.ofDigits 10 digits.reverse : Nat))

/-! Characters of any script next to the characters of ASCII they are read as. -/

section Characters

variable {c mark : Char} {digit : Nat}

theorem eq_ofNat_toNat (c : Char) : c = Char.ofNat c.toNat :=
  (Char.ofNat_toNat c).symm

/-- What is true of the characters of ASCII one by one is true of each of them. -/
theorem of_ascii {P : Char → Prop} (table : ∀ n < 127, P (Char.ofNat n)) (ascii : c.toNat < 127) :
    P c :=
  eq_ofNat_toNat c ▸ table c.toNat ascii

theorem isBlank_of_digitValue? (value : digitValue? c = some digit) : isBlank c = false := by
  have apart : ∀ first ∈ zeros, ∀ step < 10, isBlank (Char.ofNat (first + step)) = false := by
    decide +kernel
  obtain ⟨first, found, -⟩ := Option.map_eq_some_iff.mp value
  have within := List.find?_some found
  simp only [Bool.and_eq_true, decide_eq_true_eq] at within
  have blank := apart first (List.mem_of_find?_eq_some found) (c.toNat - first) (by omega)
  rwa [Nat.add_sub_cancel' within.1, ← eq_ofNat_toNat] at blank

theorem digitBelow?_ascii (ascii : c.toNat < 127) : digitBelow? 10 c = digitValue? c :=
  of_ascii (P := fun c => digitBelow? 10 c = digitValue? c) (by decide +kernel) ascii

theorem digitBelow?_written (small : digit < 10) :
    digitBelow? 10 (Char.ofNat (48 + digit)) = some digit := by
  revert digit
  decide +kernel

/-- What a character is read as. -/
inductive ReadAs (c : Char) : Char → Prop
  | ascii (small : c.toNat < 127) : ReadAs c c
  | blank (large : 127 ≤ c.toNat) (blank : isBlank c = true) : ReadAs c ' '
  | digit {digit : Nat} (large : 127 ≤ c.toNat) (value : digitValue? c = some digit) :
      ReadAs c (Char.ofNat (48 + digit))
  | other (large : 127 ≤ c.toNat) (solid : isBlank c = false) (unread : digitValue? c = none) :
      ReadAs c '?'

theorem readAs_plainChar (c : Char) : ReadAs c (plainChar c) := by
  rw [plainChar]
  split
  · next small => exact .ascii small
  · next foreign =>
      have large : 127 ≤ c.toNat := Nat.le_of_not_lt foreign
      split
      · next blank => exact .blank large blank
      · next solid =>
          cases value : digitValue? c with
          | none => exact .other large (eq_false_of_ne_true solid) value
          | some digit => exact .digit large value

theorem digitBelow?_plainChar (c : Char) : digitBelow? 10 (plainChar c) = digitValue? c := by
  have read := readAs_plainChar c
  generalize plainChar c = d at read ⊢
  cases read with
  | ascii small => exact digitBelow?_ascii small
  | blank large blank =>
      cases value : digitValue? c with
      | none => decide
      | some digit => rw [isBlank_of_digitValue? value] at blank; contradiction
  | digit large value => rw [value, digitBelow?_written (digitValue?_lt value)]
  | other large solid unread => rw [unread]; decide

/-- The characters besides digits and white space that a numeral may hold. -/
def marks : List Char := ['_', '+', '-', 'x', 'X']

theorem forall_marks {P : Char → Prop} [DecidablePred P]
    (each : marks.all (fun mark => decide (P mark)) = true) (marked : mark ∈ marks) : P mark :=
  of_decide_eq_true (List.all_eq_true.mp each mark marked)

/-- No character but the mark itself is read as a mark. -/
theorem plainChar_eq_iff (marked : mark ∈ marks) : plainChar c = mark ↔ c = mark := by
  have ascii : mark.toNat < 127 :=
    forall_marks (P := fun mark => mark.toNat < 127) (by decide) marked
  have away (large : 127 ≤ c.toNat) : c ≠ mark := by
    rintro rfl
    omega
  have read := readAs_plainChar c
  generalize plainChar c = d at read ⊢
  cases read with
  | ascii small => exact Iff.rfl
  | blank large blank =>
      have space : ' ' ≠ mark := forall_marks (P := fun mark => ' ' ≠ mark) (by decide) marked
      exact iff_of_false space (away large)
  | digit large value =>
      have digits : ∀ digit < 10, Char.ofNat (48 + digit) ≠ mark :=
        forall_marks (P := fun mark => ∀ digit < 10, Char.ofNat (48 + digit) ≠ mark)
          (by decide +kernel) marked
      exact iff_of_false (digits _ (digitValue?_lt value)) (away large)
  | other large solid unread =>
      have unknown : '?' ≠ mark := forall_marks (P := fun mark => '?' ≠ mark) (by decide) marked
      exact iff_of_false unknown (away large)

theorem isAsciiBlank_written (small : digit < 10) :
    isAsciiBlank (Char.ofNat (48 + digit)) = false := by
  revert digit
  decide +kernel

/-- White space that is skipped around a numeral: all but the separators of ASCII. -/
def isGap (c : Char) : Bool :=
  isBlank c && !(28 ≤ c.toNat && c.toNat ≤ 31)

theorem isBlank_of_isGap (gap : isGap c = true) : isBlank c = true :=
  (Bool.and_eq_true_iff.mp gap).1

theorem isGap_of_solid (solid : isBlank c = false) : isGap c = false := by
  rw [isGap, solid]
  rfl

theorem isAsciiBlank_plainChar (c : Char) : isAsciiBlank (plainChar c) = isGap c := by
  have read := readAs_plainChar c
  generalize plainChar c = d at read ⊢
  cases read with
  | ascii small =>
      exact of_ascii (P := fun c => isAsciiBlank c = isGap c) (by decide +kernel) small
  | blank large blank =>
      have later : ¬ c.toNat ≤ 31 := by omega
      simp [isGap, blank, later, isAsciiBlank]
  | digit large value =>
      rw [isAsciiBlank_written (digitValue?_lt value), isGap_of_solid (isBlank_of_digitValue? value)]
  | other large solid unread =>
      rw [isGap_of_solid solid]
      rfl

theorem trimBy_plainChar (cs : List Char) :
    trimBy isAsciiBlank (cs.map plainChar) = (trimBy isGap cs).map plainChar := by
  have gaps : isAsciiBlank ∘ plainChar = isGap := by
    funext c
    exact isAsciiBlank_plainChar c
  rw [trimBy_map, gaps]

theorem isBlank_of_mem_marks (marked : mark ∈ marks) : isBlank mark = false :=
  forall_marks (P := fun mark => isBlank mark = false) (by decide) marked

theorem digitValue?_of_mem_marks (marked : mark ∈ marks) : digitValue? mark = none :=
  forall_marks (P := fun mark => digitValue? mark = none) (by decide) marked

end Characters

variable {cs : List Char} {digits : List Nat}

theorem digits_iff_grouped : Digits cs digits ↔ Grouped digitValue? cs digits := by
  constructor
  · intro body
    induction body with
    | last value => exact .last value
    | next value rest induction => exact .next value induction
    | spaced value rest induction => exact .spaced value induction
  · intro body
    induction body with
    | last value => exact .last value
    | next value rest induction => exact .next value induction
    | spaced value rest induction => exact .spaced value induction

theorem Digits.isBlank (body : Digits cs digits) : ∀ c ∈ cs, isBlank c = false :=
  (digits_iff_grouped.mp body).forall (isBlank_of_mem_marks (by decide))
    fun _ _ value => isBlank_of_digitValue? value

def plainDigits? (cs : List Char) : Option (List Nat) :=
  digits? (digitBelow? 10) (cs.map plainChar)

theorem plainDigits?_eq_some_iff : plainDigits? cs = some digits ↔ Digits cs digits := by
  have values : digitBelow? 10 ∘ plainChar = digitValue? := by
    funext c
    exact digitBelow?_plainChar c
  rw [plainDigits?, digits?_map fun c => plainChar_eq_iff (by decide), values,
    digits?_eq_some_iff (digitValue?_of_mem_marks (by decide)), digits_iff_grouped]

/-! The reading of a whole text, sign and all. -/

theorem dropBaseMark_ten (cs : List Char) : dropBaseMark 10 cs = cs := by
  rw [dropBaseMark.eq_def]
  split
  · rw [if_neg (by simp [baseMark?])]
  · rfl

theorem decimal?_bind (cs : List Char) :
    decimal? cs =
      let parts := splitSign ((trimBy isGap cs).map plainChar)
      (digits? (digitBelow? 10) parts.2).bind fun digits =>
        if digitLimit < digits.length then none
        else some (signed parts.1 (ofDigits 10 digits)) := by
  rw [decimal?, inBase?, trimBy_plainChar]
  dsimp only
  rw [dropBaseMark_ten]
  cases digits? (digitBelow? 10) (splitSign ((trimBy isGap cs).map plainChar)).2 with
  | none => rfl
  | some digits => simp

/-- A text of which a sign is split off when it is read. -/
structure Splits (cs : List Char) (factor : Int) (body : List Char) : Prop where
  rest : (splitSign (cs.map plainChar)).2 = body.map plainChar
  sign : ∀ magnitude : Nat, signed (splitSign (cs.map plainChar)).1 magnitude = factor * magnitude

theorem splits_minus (cs : List Char) : Splits ('-' :: cs) (-1) cs := by
  have plain : plainChar '-' = '-' := (plainChar_eq_iff (by decide)).mpr rfl
  constructor
  · rw [List.map_cons, plain]
    rfl
  · intro magnitude
    rw [List.map_cons, plain, Int.neg_one_mul]
    rfl

theorem splits_plus (cs : List Char) : Splits ('+' :: cs) 1 cs := by
  have plain : plainChar '+' = '+' := (plainChar_eq_iff (by decide)).mpr rfl
  constructor
  · rw [List.map_cons, plain]
    rfl
  · intro magnitude
    rw [List.map_cons, plain, Int.one_mul]
    rfl

theorem splits_unsigned {c : Char} (minus : c ≠ '-') (plus : c ≠ '+') (cs : List Char) :
    Splits (c :: cs) 1 (c :: cs) := by
  have plainMinus : plainChar c ≠ '-' := fun same =>
    minus ((plainChar_eq_iff (by decide)).mp same)
  have plainPlus : plainChar c ≠ '+' := fun same => plus ((plainChar_eq_iff (by decide)).mp same)
  have split : splitSign ((c :: cs).map plainChar) = (false, (c :: cs).map plainChar) := by
    rw [List.map_cons, splitSign.eq_def]
    split
    · next same => exact absurd (List.cons.inj same).1 plainMinus
    · next same => exact absurd (List.cons.inj same).1 plainPlus
    · rfl
  constructor
  · rw [split]
  · intro magnitude
    rw [split, Int.one_mul]
    rfl

theorem exists_splits (cs : List Char) :
    ∃ sign factor body, cs = sign ++ body ∧ (sign, factor) ∈ signs ∧ Splits cs factor body := by
  cases cs with
  | nil => exact ⟨[], 1, [], rfl, by decide, rfl, fun magnitude => (Int.one_mul _).symm⟩
  | cons c rest =>
      by_cases minus : c = '-'
      · exact ⟨['-'], -1, rest, by rw [minus]; rfl, by decide, minus ▸ splits_minus rest⟩
      · by_cases plus : c = '+'
        · exact ⟨['+'], 1, rest, by rw [plus]; rfl, by decide, plus ▸ splits_plus rest⟩
        · exact ⟨[], 1, c :: rest, rfl, by decide, splits_unsigned minus plus rest⟩

/-- The sign in front of anything that has none of its own is split off. -/
theorem splits_signed {sign : List Char} {factor : Int} (signed : (sign, factor) ∈ signs)
    (unsigned : ∀ c ∈ cs.head?, c ≠ '-' ∧ c ≠ '+') : Splits (sign ++ cs) factor cs := by
  simp only [signs, List.mem_cons, List.not_mem_nil, or_false, Prod.mk.injEq] at signed
  rcases signed with ⟨rfl, rfl⟩ | ⟨rfl, rfl⟩ | ⟨rfl, rfl⟩
  · cases cs with
    | nil => exact ⟨rfl, fun magnitude => (Int.one_mul _).symm⟩
    | cons c rest =>
        obtain ⟨minus, plus⟩ := unsigned c rfl
        exact splits_unsigned minus plus rest
  · exact splits_plus cs
  · exact splits_minus cs

/-- A digit of any kind is no sign. -/
theorem Grouped.unsigned {digit? : Char → Option Nat} (body : Grouped digit? cs digits)
    (minus : digit? '-' = none) (plus : digit? '+' = none) :
    ∀ c ∈ cs.head?, c ≠ '-' ∧ c ≠ '+' := by
  obtain ⟨c, rest, digit, rfl, value⟩ := body.head
  intro d first
  obtain rfl := Option.some.inj first
  constructor
  · rintro rfl
    rw [minus] at value
    contradiction
  · rintro rfl
    rw [plus] at value
    contradiction

theorem Digits.splits (body : Digits cs digits) {sign : List Char} {factor : Int}
    (signed : (sign, factor) ∈ signs) : Splits (sign ++ cs) factor cs :=
  splits_signed signed ((digits_iff_grouped.mp body).unsigned (digitValue?_of_mem_marks (by decide))
    (digitValue?_of_mem_marks (by decide)))

theorem Splits.decimal?_eq {cs body : List Char} {factor : Int} (splits : Splits cs factor body)
    {around : List Char} (trimmed : trimBy isGap around = cs) :
    decimal? around = (plainDigits? body).bind fun digits =>
      if digitLimit < digits.length then none
      else some (factor * (Nat.ofDigits 10 digits.reverse : Nat)) := by
  rw [decimal?_bind, trimmed]
  dsimp only
  rw [splits.rest, plainDigits?]
  congr 1
  funext digits
  rw [splits.sign, ofDigits_eq]

theorem isBlank_of_mem_signs {sign : List Char} {factor : Int} (signed : (sign, factor) ∈ signs) :
    ∀ c ∈ sign, Text.isBlank c = false := by
  have marked : ∀ entry ∈ signs, entry.1 ⊆ marks := by decide
  exact fun c member => isBlank_of_mem_marks (marked _ signed member)

theorem Spells.decimal?_eq {cs : List Char} {n : Int} (spells : Spells cs n) :
    decimal? (trimBy Text.isBlank cs) = some n := by
  obtain ⟨blankBefore, signed, body, short, blankAfter⟩ := spells
  have solid := List.forall_mem_append.mpr ⟨isBlank_of_mem_signs signed, body.isBlank⟩
  have trimmed := trimBy_eq_self fun c member => isGap_of_solid (solid c member)
  rw [trimBy_enclosed blankBefore blankAfter solid, (body.splits signed).decimal?_eq trimmed,
    plainDigits?_eq_some_iff.mpr body, Option.bind_some, if_neg (Nat.not_lt.mpr short)]

theorem Spells.of_decimal? {cs : List Char} {n : Int}
    (read : decimal? (trimBy Text.isBlank cs) = some n) : Spells cs n := by
  obtain ⟨before, after, spelled, blankBefore, blankAfter⟩ := exists_trimBy Text.isBlank cs
  obtain ⟨first, last, around, gapFirst, gapLast⟩ := exists_trimBy isGap (trimBy Text.isBlank cs)
  obtain ⟨sign, factor, body, signedBody, signed, splits⟩ :=
    exists_splits (trimBy isGap (trimBy Text.isBlank cs))
  rw [splits.decimal?_eq rfl] at read
  obtain ⟨digits, digitsRead, read⟩ := Option.bind_eq_some_iff.mp read
  split at read
  · contradiction
  · next short =>
      obtain rfl := Option.some.inj read
      have whole : cs = (before ++ first) ++ (sign ++ body) ++ (last ++ after) := by
        rw [spelled, around, signedBody]
        simp only [List.append_assoc]
      rw [whole]
      exact .intro
        (List.forall_mem_append.mpr ⟨blankBefore, fun c member => isBlank_of_isGap (gapFirst c member)⟩)
        signed (plainDigits?_eq_some_iff.mp digitsRead) (Nat.le_of_not_lt short)
        (List.forall_mem_append.mpr ⟨fun c member => isBlank_of_isGap (gapLast c member), blankAfter⟩)

/-- A text is read as a whole number exactly where it spells that number. -/
theorem decimal?_eq_some_iff {cs : List Char} {n : Int} :
    decimal? (trimBy Text.isBlank cs) = some n ↔ Spells cs n :=
  ⟨.of_decimal?, Spells.decimal?_eq⟩

end WalCheckpoint.Text.Numeral
