import WalCheckpoint.Proofs.Yaml.Cursor
import WalCheckpoint.Yaml.Scalar.Plain
import WalCheckpoint.Yaml.Scalar.Quoted
import WalCheckpoint.Yaml.Token

namespace WalCheckpoint.Yaml

open Json.Layout (Blank)

/-! Words are scalars of their own, in quotes and without. -/

theorem toNat_of_isWordChar {c : Char} (word : isWordChar c = true) :
    45 ≤ c.toNat ∧ c.toNat ≤ 122 := by
  have kinds : ((((c.isUpper || c.isLower) || c.isDigit) || c == '-') || c == '_') = true := word
  simp only [Bool.or_eq_true, beq_iff_eq] at kinds
  rcases kinds with (((upper | lower) | digit) | rfl) | rfl
  · have range : 'A'.val ≤ c.val ∧ c.val ≤ 'Z'.val := of_decide_eq_true upper
    rw [UInt32.le_iff_toNat_le, UInt32.le_iff_toNat_le] at range
    exact ⟨Nat.le_trans (by decide) range.1, Nat.le_trans range.2 (by decide)⟩
  · have range : 'a'.val ≤ c.val ∧ c.val ≤ 'z'.val := by
      have both : (decide ('a'.val ≤ c.val) && decide (c.val ≤ 'z'.val)) = true := lower
      rwa [Bool.and_eq_true, decide_eq_true_eq, decide_eq_true_eq] at both
    rw [UInt32.le_iff_toNat_le, UInt32.le_iff_toNat_le] at range
    exact ⟨Nat.le_trans (by decide) range.1, Nat.le_trans range.2 (by decide)⟩
  · obtain ⟨low, high⟩ := Char.isDigit_iff_toNat.mp digit
    exact ⟨Nat.le_trans (by decide) low, Nat.le_trans high (by decide)⟩
  · decide
  · decide

theorem ne_of_isWordChar {c d : Char} (word : isWordChar c = true) (other : isWordChar d = false) :
    c ≠ d := by
  rintro rfl
  rw [word] at other
  contradiction

theorem isBreak_of_isWordChar {c : Char} (word : isWordChar c = true) : isBreak c = false := by
  obtain ⟨low, high⟩ := toNat_of_isWordChar word
  simp only [isBreak, Bool.or_eq_false_iff, beq_eq_false_iff_ne]
  omega

theorem endsIndicator_of_isWordChar {c : Char} (word : isWordChar c = true) :
    endsIndicator c = false := by
  simp [endsIndicator, endsWord, endsLine, isBreak_of_isWordChar word,
    ne_of_isWordChar word (d := '\t') (by decide), ne_of_isWordChar word (d := ' ') (by decide),
    ne_of_isWordChar word (d := pastEnd) (by decide)]

namespace Quoted

theorem part?_of_isWordChar {c : Cursor} {x : Char} {rest : List Char} (held : c.rest = x :: rest)
    (word : isWordChar x = true) : part? .double c = .ok (some ([.char x], c.next)) := by
  have quote : x ≠ Style.double.quote := ne_of_isWordChar word (by decide)
  have slash : x ≠ '\\' := ne_of_isWordChar word (by decide)
  rw [part?, Cursor.head_eq held, if_neg quote, if_neg (fun escape => slash escape.2),
    if_neg (by simp [endsIndicator_of_isWordChar word])]

theorem part?_quote {c : Cursor} {rest : List Char} (held : c.rest = '"' :: rest) :
    part? .double c = .ok none := by
  have quote : '"' = Style.double.quote := rfl
  rw [part?, Cursor.head_eq held, if_pos quote, if_neg (fun single => absurd single.1 (by decide))]

theorem content_word {c : Cursor} {name rest : List Char} (held : c.rest = name ++ '"' :: rest)
    (word : ∀ x ∈ name, isWordChar x = true) :
    content .double c = .ok (.sound (String.ofList name), c.advance (name.length + 1)) := by
  have within (fuel : Nat) (enough : name.length < fuel) : contentWithin fuel .double c =
      .ok (name.map .char, c.advance (name.length + 1)) := by
    induction name generalizing c fuel with
    | nil =>
        obtain ⟨fuel, rfl⟩ := Nat.exists_eq_add_one_of_ne_zero (Nat.ne_of_gt enough)
        simp only [contentWithin, part?_quote held]
        rfl
    | cons x name induction =>
        obtain ⟨fuel, rfl⟩ := Nat.exists_eq_add_one_of_ne_zero (Nat.ne_of_gt (Nat.zero_lt_of_lt enough))
        have after : c.next.rest = name ++ '"' :: rest := by rw [Cursor.rest_next, held]; rfl
        have more := induction after (fun y member => word y (List.mem_cons_of_mem x member)) fuel
          (by simpa using enough)
        simp only [contentWithin, part?_of_isWordChar held (word x List.mem_cons_self)]
        simp [bind, Except.bind, more, pure, Except.pure, Cursor.advance]
  have enough : name.length < c.rest.length + 1 := by
    rw [held, List.length_append, List.length_cons]
    omega
  rw [content, within _ enough]
  exact congrArg (fun text => Except.ok (text, _)) (Text.ofPoints_chars name)

end Quoted

namespace Plain

/-- The marks that set the entries of a mapping apart. -/
def IsMark (x : Char) : Prop := x = ',' ∨ x = '\x7d'

theorem IsMark.solid {x : Char} (mark : IsMark x) (rest : List Char) : Solid (x :: rest) := by
  rcases mark with rfl | rfl
  · exact .cons (by decide)
  · exact .cons (by decide)

theorem endsPlainWord_of_isWordChar {x : Char} (word : isWordChar x = true) (next : Char) :
    endsPlainWord true x next = false := by
  have colon : x ≠ ':' := ne_of_isWordChar word (by decide)
  have question : x ≠ '?' := ne_of_isWordChar word (by decide)
  have comma : x ≠ ',' := ne_of_isWordChar word (by decide)
  have opening : x ≠ '[' := ne_of_isWordChar word (by decide)
  have closing : x ≠ ']' := ne_of_isWordChar word (by decide)
  have left : x ≠ '\x7b' := ne_of_isWordChar word (by decide)
  have right : x ≠ '\x7d' := ne_of_isWordChar word (by decide)
  simp [endsPlainWord, isFlowMark, endsIndicator_of_isWordChar word, colon, question, comma,
    opening, closing, left, right]

section Gap

variable {c : Cursor} {blanks rest : List Char} {mark : Char}

theorem wordLength_gap (blank : Blank blanks) (isMark : IsMark mark) :
    wordLength true (blanks ++ mark :: rest) = 0 := by
  cases blanks with
  | nil => rcases isMark with rfl | rfl <;> simp [wordLength, endsPlainWord, isFlowMark]
  | cons x blanks =>
      rcases blank x List.mem_cons_self with rfl | rfl <;>
        simp [wordLength, endsPlainWord, endsIndicator, endsWord, endsLine, isBreak]

theorem wordLength_word {word : List Char} (chars : ∀ x ∈ word, isWordChar x = true)
    (blank : Blank blanks) (isMark : IsMark mark) :
    wordLength true (word ++ (blanks ++ mark :: rest)) = word.length := by
  induction word with
  | nil => exact wordLength_gap blank isMark
  | cons x word induction =>
      have inside := endsPlainWord_of_isWordChar (chars x List.mem_cons_self)
      rw [List.cons_append, wordLength, if_neg (by simp [inside]),
        induction fun y member => chars y (List.mem_cons_of_mem x member), List.length_cons]

theorem not_atDocumentMarker (blank : Blank blanks) (isMark : IsMark mark)
    (held : c.rest = blanks ++ mark :: rest) : c.atDocumentMarker = false := by
  have head : c.head ≠ '-' ∧ c.head ≠ '.' := by
    cases blanks with
    | nil =>
        rw [Cursor.head_eq held]
        rcases isMark with rfl | rfl <;> decide
    | cons x blanks =>
        rw [Cursor.head_eq held]
        rcases blank x List.mem_cons_self with rfl | rfl <;> decide
  simp [Cursor.atDocumentMarker, Cursor.atMarker, Cursor.peek_zero, head.1, head.2]

theorem breaksWithin_blank (blank : Blank blanks) (isMark : IsMark mark)
    (held : c.rest = blanks ++ mark :: rest) {fuel : Nat} (enough : blanks.length < fuel) :
    ∃ read after, breaksWithin fuel c = some (read, after) ∧ after.rest = mark :: rest := by
  induction fuel generalizing c blanks with
  | zero => exact absurd enough (Nat.not_lt_zero _)
  | succ fuel induction =>
      obtain ⟨left, blank', shorter, after, first⟩ :=
        c.skipSpaces_blank blank (isMark.solid rest) held
      simp only [breaksWithin, not_atDocumentMarker blank isMark held, Bool.false_eq_true, if_false]
      cases left with
      | nil =>
          have solid := (isMark.solid rest mark rfl).2.2.1
          rw [Cursor.head_eq after, if_neg (by simp [solid])]
          exact ⟨_, _, rfl, after⟩
      | cons x left =>
          obtain rfl := first x rfl
          have later : c.skipSpaces.next.rest = left ++ mark :: rest := by
            rw [Cursor.rest_next, after]
            rfl
          rw [Cursor.head_eq after, if_pos (by decide)]
          obtain ⟨read, end_, found, rest⟩ := induction blank'.tail later
            (Nat.lt_of_succ_le (Nat.le_trans shorter (Nat.le_of_lt_succ enough)))
          rw [found]
          exact ⟨_, _, rfl, rest⟩

theorem gap_blank (blank : Blank blanks) (isMark : IsMark mark)
    (held : c.rest = blanks ++ mark :: rest) : (gap c).after.rest = mark :: rest := by
  obtain ⟨left, blank', -, after, first⟩ := c.skipSpaces_blank blank (isMark.solid rest) held
  simp only [gap]
  cases left with
  | nil =>
      have solid := (isMark.solid rest mark rfl).2.2.1
      rw [Cursor.head_eq after, if_neg (by simp [solid])]
      exact after
  | cons x left =>
      obtain rfl := first x rfl
      have later : c.skipSpaces.next.rest = left ++ mark :: rest := by
        rw [Cursor.rest_next, after]
        rfl
      have enough : left.length < c.skipSpaces.rest.length + 1 := by
        rw [after, List.length_append, List.length_cons]
        omega
      obtain ⟨read, end_, found, ends⟩ := breaksWithin_blank blank'.tail isMark later enough
      rw [Cursor.head_eq after, if_pos (by decide), found]
      exact ends

end Gap

theorem wordsWithin_mark {before : Gap} {mark : Char} {rest : List Char} (isMark : IsMark mark)
    (held : before.after.rest = mark :: rest) (indent : Int) (fuel : Nat) :
    wordsWithin fuel true indent before = ⟨[], before.brokeLine, before.after⟩ := by
  cases fuel with
  | zero => rfl
  | succ fuel =>
      have none : wordLength true before.after.rest = 0 := by
        rw [held]
        exact wordLength_gap Blank.nil isMark
      simp only [wordsWithin]
      rw [if_pos (.inr none)]

/-- A word up to the next mark is one scalar, and blanks before the mark are passed over. -/
theorem lexeme_word {c : Cursor} {word blanks rest : List Char} {mark : Char} (filled : word ≠ [])
    (chars : ∀ x ∈ word, isWordChar x = true) (blank : Blank blanks) (isMark : IsMark mark)
    (held : c.rest = word ++ (blanks ++ mark :: rest)) (indent : Int) :
    (lexeme true indent c).text = word ∧ (lexeme true indent c).after.rest = mark :: rest := by
  have length : wordLength true c.rest = word.length := by
    rw [held, wordLength_word chars blank isMark]
  have head : c.head ≠ '#' := by
    obtain ⟨x, more, rfl⟩ := List.exists_cons_of_ne_nil filled
    rw [Cursor.head_eq held]
    exact ne_of_isWordChar (chars x List.mem_cons_self) (by decide)
  have after : (gap (c.advance word.length)).after.rest = mark :: rest :=
    gap_blank blank isMark (Cursor.rest_advance_append held)
  have taken : c.rest.take word.length = word := by rw [held, List.take_left]
  have more (fuel : Nat) := wordsWithin_mark isMark after indent fuel
  have some : ¬ (c.head = '#' ∨ word.length = 0) := by simp [head, filled]
  simp only [lexeme, wordsWithin, length, if_neg some, more, ite_self, List.nil_append, taken,
    List.append_nil]
  exact ⟨trivial, after⟩

end Plain

end WalCheckpoint.Yaml
