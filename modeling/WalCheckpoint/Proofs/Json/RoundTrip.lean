import WalCheckpoint.Proofs.Json.Escape
import WalCheckpoint.Proofs.Json.Image
import WalCheckpoint.Proofs.Text.Digits

namespace WalCheckpoint

/-! JSON text of plain values. In either layout it is read back as the value it was written for. -/

theorem toList_toString_int (n : Int) :
    (toString n).toList =
      if n < 0 then '-' :: Nat.toDigits 10 n.natAbs else Nat.toDigits 10 n.natAbs := by
  rw [Int.toString_eq_repr, Int.repr_eq_if]
  rcases Int.lt_or_le n 0 with negative | positive
  · rw [if_neg (by omega), if_pos negative, String.toList_append, Nat.repr_eq_ofList_toDigits,
      String.toList_ofList, String.toList_ofList, show (-n).toNat = n.natAbs by omega]
    rfl
  · rw [if_pos positive, if_neg (by omega), Nat.repr_eq_ofList_toDigits, String.toList_ofList,
      show n.toNat = n.natAbs by omega]

namespace Json

/-- Text with which no number goes on. -/
def Ends (rest : List Char) : Prop :=
  ∀ c ∈ rest.head?, c.isDigit = false ∧ c ≠ '.' ∧ c ≠ 'e' ∧ c ≠ 'E'

theorem Ends.nil : Ends [] := nofun

theorem Ends.cons {c : Char} {rest : List Char}
    (other : c.isDigit = false ∧ c ≠ '.' ∧ c ≠ 'e' ∧ c ≠ 'E') : Ends (c :: rest) := by
  intro d same
  obtain rfl := Option.some.inj same
  exact other

theorem Ends.takeWhile_isDigit {rest : List Char} (ends : Ends rest) :
    rest.takeWhile Char.isDigit = [] ∧ rest.dropWhile Char.isDigit = rest := by
  cases rest with
  | nil => exact ⟨rfl, rfl⟩
  | cons c rest =>
      obtain ⟨digit, -⟩ := ends c rfl
      simp [digit]

theorem Ends.splitFraction {rest : List Char} (ends : Ends rest) :
    Json.splitFraction rest = ([], rest) := by
  rw [Json.splitFraction.eq_def]
  split
  · next rest => exact absurd rfl (ends '.' rfl).2.1
  · rfl

theorem Ends.splitExponent {rest : List Char} (ends : Ends rest) :
    Json.splitExponent rest = (none, rest) := by
  cases rest with
  | nil => rfl
  | cons c rest =>
      obtain ⟨-, -, small, capital⟩ := ends c rfl
      rw [Json.splitExponent, if_neg (by simp [small, capital])]

theorem ofDigits_digitsOf (cs : List Char) :
    Text.Numeral.ofDigits 10 (digitsOf cs) = Nat.ofDigitChars 10 cs 0 := by
  rw [Text.Numeral.ofDigits, digitsOf, List.foldl_map, Nat.ofDigitChars_eq_foldl]
  congr
  funext value c
  rw [Nat.mul_comm]
  rfl

theorem takeWhile_toDigits (n : Nat) {rest : List Char} (ends : Ends rest) :
    (Nat.toDigits 10 n ++ rest).takeWhile Char.isDigit = Nat.toDigits 10 n ∧
      (Nat.toDigits 10 n ++ rest).dropWhile Char.isDigit = rest := by
  have digits : ∀ c ∈ Nat.toDigits 10 n, c.isDigit = true :=
    fun c member => Nat.isDigit_of_mem_toDigits (by decide) (by decide) member
  obtain ⟨none, all⟩ := ends.takeWhile_isDigit
  rw [List.takeWhile_append_of_pos digits, List.dropWhile_append_of_pos digits, none, all,
    List.append_nil]
  exact ⟨rfl, rfl⟩

theorem wholePart?_toDigits (n : Nat) {rest : List Char} (ends : Ends rest) :
    wholePart? (Nat.toDigits 10 n ++ rest) = some (Nat.toDigits 10 n, rest) := by
  rcases Nat.eq_zero_or_pos n with rfl | positive
  · rfl
  · obtain ⟨digits, others⟩ := takeWhile_toDigits n ends
    rw [wholePart?.eq_def]
    split
    · next more same =>
        rcases List.append_eq_cons_iff.mp same with ⟨none, -⟩ | ⟨digits, first, -⟩
        · exact absurd none Nat.toDigits_ne_nil
        · exact absurd first (Nat.toDigits_ne_zero_cons (by decide) positive digits)
    · rw [digits, others, if_neg]
      simp [Nat.toDigits_ne_nil]

theorem magnitude?_toDigits {n : Nat} (short : n < Nat.pow 10 Text.Numeral.digitLimit)
    (negative : Bool) {rest : List Char} (ends : Ends rest) :
    magnitude? negative (Nat.toDigits 10 n ++ rest) =
      some (.int (Text.Numeral.signed negative n), rest) := by
  have within : (Nat.toDigits 10 n).length ≤ Text.Numeral.digitLimit :=
    Nat.length_toDigits_le (by decide) short
  rw [magnitude?, wholePart?_toDigits n ends]
  simp only [Option.bind_eq_bind, Option.bind_some, ends.splitFraction, ends.splitExponent]
  rw [List.append_nil, ofDigits_digitsOf, Nat.ofDigitChars_ten_toDigits, if_pos ⟨rfl, rfl⟩,
    if_pos within]

theorem ne_of_isDigit {c d : Char} (digit : c.isDigit = true) (other : d.isDigit = false) :
    c ≠ d := by
  rintro rfl
  rw [digit] at other
  contradiction

theorem plain?_of_isDigit {c : Char} (digit : c.isDigit = true) (cs : List Char) :
    plain? (c :: cs) = magnitude? false (c :: cs) := by
  have small : 'n' ≠ c := (ne_of_isDigit digit rfl).symm
  have true_ : 't' ≠ c := (ne_of_isDigit digit rfl).symm
  have false_ : 'f' ≠ c := (ne_of_isDigit digit rfl).symm
  have capital : 'N' ≠ c := (ne_of_isDigit digit rfl).symm
  have infinite : 'I' ≠ c := (ne_of_isDigit digit rfl).symm
  have minus : '-' ≠ c := (ne_of_isDigit digit rfl).symm
  simp [plain?, afterText?, small, true_, false_, capital, infinite, minus, minus.symm]

theorem plain?_of_minus {c : Char} (digit : c.isDigit = true) (cs : List Char) :
    plain? ('-' :: c :: cs) = magnitude? true (c :: cs) := by
  have infinite : 'I' ≠ c := (ne_of_isDigit digit rfl).symm
  simp [plain?, afterText?, infinite]

theorem plain?_toString {n : Int} (short : (Value.int n).isTellable = true) {rest : List Char}
    (ends : Ends rest) :
    ∃ c cs, (toString n).toList = c :: cs ∧ (c.isDigit = true ∨ c = '-') ∧
      plain? (c :: (cs ++ rest)) = some (.int n, rest) := by
  have within : n.natAbs < Nat.pow 10 Text.Numeral.digitLimit :=
    (Value.isTellable_int_iff n).mp short
  obtain ⟨c, cs, digits⟩ := List.exists_cons_of_ne_nil (Nat.toDigits_ne_nil (n := n.natAbs) (b := 10))
  have digit : c.isDigit = true := Nat.isDigit_of_mem_toDigits (b := 10) (n := n.natAbs)
    (by decide) (by decide) (digits ▸ List.mem_cons_self)
  rw [toList_toString_int]
  rcases Int.lt_or_le n 0 with negative | positive
  · refine ⟨'-', c :: cs, by rw [if_pos negative, digits], .inr rfl, ?_⟩
    rw [List.cons_append, plain?_of_minus digit, ← List.cons_append, ← digits,
      magnitude?_toDigits within true ends, Text.Numeral.signed, if_pos rfl,
      show -(n.natAbs : Int) = n by omega]
  · refine ⟨c, cs, by rw [if_neg (by omega), digits], .inl digit, ?_⟩
    rw [plain?_of_isDigit digit, ← List.cons_append, ← digits,
      magnitude?_toDigits within false ends, Text.Numeral.signed, if_neg (by decide),
      show (n.natAbs : Int) = n by omega]

/-- Values that JSON text holds as they are: numbers are whole and not too long, and the names of a
mapping are texts. -/
inductive Plain : Value → Prop
  | null : Plain .null
  | bool (b : Bool) : Plain (.bool b)
  | int {n : Int} (short : (Value.int n).isTellable = true) : Plain (.int n)
  | string (s : String) : Plain (.string s)
  | list {items : List Value} (plain : ∀ item ∈ items, Plain item) : Plain (.list items)
  | map {fields : List (String × Value)} (distinct : (fields.map Prod.fst).Nodup)
      (plain : ∀ field ∈ fields, Plain field.2) : Plain (.map (Mapping.ofFields fields))

theorem skipSpace_append {blanks : List Char} (blank : ∀ c ∈ blanks, isSpace c = true)
    (cs : List Char) : skipSpace (blanks ++ cs) = skipSpace cs :=
  List.dropWhile_append_of_pos blank

theorem skipSpace_cons {c : Char} (other : isSpace c = false) (cs : List Char) :
    skipSpace (c :: cs) = c :: cs := by
  rw [skipSpace, List.dropWhile_cons_of_neg (by simp [other])]

namespace Layout

/-- What is written between the parts of a value besides commas. -/
def Blank (cs : List Char) : Prop :=
  ∀ c ∈ cs, c = ' ' ∨ c = '\n'

theorem Blank.nil : Blank [] := nofun

theorem Blank.tail {c : Char} {cs : List Char} (blank : Blank (c :: cs)) : Blank cs :=
  fun d member => blank d (List.mem_cons_of_mem c member)

theorem Blank.isSpace {cs : List Char} (blank : Blank cs) : ∀ c ∈ cs, isSpace c = true := by
  intro c member
  rcases blank c member with rfl | rfl <;> rfl

theorem blank_lineBreak (layout : Layout) (depth : Nat) : Blank (layout.lineBreak depth) := by
  cases layout with
  | line => nofun
  | indented width =>
      intro c member
      rcases List.mem_cons.mp member with rfl | member
      · exact .inr rfl
      · exact .inl (List.eq_of_mem_replicate member)

theorem separator_eq (layout : Layout) (depth : Nat) :
    ∃ gap, layout.separator depth = ',' :: gap ∧ Blank gap := by
  cases layout with
  | line => exact ⟨[' '], rfl, List.forall_mem_singleton.mpr (.inl rfl)⟩
  | indented width => exact ⟨_, rfl, blank_lineBreak _ depth⟩

theorem intercalate_cons (layout : Layout) (depth : Nat) :
    ∃ gap, Blank gap ∧ ∀ (part : List Char) {parts : List (List Char)},
      parts ≠ [] → List.intercalate (layout.separator depth) (part :: parts) =
        part ++ ',' :: (gap ++ List.intercalate (layout.separator depth) parts) := by
  obtain ⟨gap, separated, space⟩ := layout.separator_eq depth
  refine ⟨gap, space, fun part parts filled => ?_⟩
  cases parts with
  | nil => exact absurd rfl filled
  | cons next parts =>
      rw [List.intercalate_cons_cons, separated, List.append_assoc]
      rfl

variable (layout : Layout) (depth : Nat) (opening closing : Char) {parts : List (List Char)}

theorem enclose_ne_nil (parts : List (List Char)) :
    layout.enclose depth opening closing parts ≠ [] := by
  rw [enclose]
  split <;> simp

theorem enclose_append (filled : parts ≠ []) (rest : List Char) :
    layout.enclose depth opening closing parts ++ rest =
      opening :: (layout.lineBreak (depth + 1) ++
        (List.intercalate (layout.separator (depth + 1)) parts ++
          (layout.lineBreak depth ++ closing :: rest))) := by
  rw [enclose, if_neg (by simpa using filled)]
  simp

theorem length_lt_enclose (filled : parts ≠ []) :
    (List.intercalate (layout.separator (depth + 1)) parts ++ layout.lineBreak depth ++
      [closing]).length < (layout.enclose depth opening closing parts).length := by
  rw [enclose, if_neg (by simpa using filled)]
  simp only [List.length_append, List.length_cons]
  omega

end Layout

theorem Ends.of_isSpace {blanks rest : List Char} (blank : ∀ c ∈ blanks, isSpace c = true)
    (ends : Ends rest) : Ends (blanks ++ rest) := by
  cases blanks with
  | nil => exact ends
  | cons c blanks =>
      have space := blank c List.mem_cons_self
      refine .cons ?_
      simp only [isSpace, Bool.or_eq_true, decide_eq_true_eq] at space
      rcases space with ((rfl | rfl) | rfl) | rfl <;> decide

/-- What is written begins with a character that says what kind of value it is. -/
theorem write_eq_cons {v : Value} (plain : Plain v) (layout : Layout) (depth : Nat) :
    ∃ c cs, write layout depth v = c :: cs ∧ isSpace c = false ∧ c ≠ ']' := by
  cases plain with
  | null => exact ⟨_, _, rfl, by decide, by decide⟩
  | bool b => cases b <;> exact ⟨_, _, rfl, by decide, by decide⟩
  | int short =>
      obtain ⟨c, cs, written, digit | rfl, -⟩ := plain?_toString short .nil
      · refine ⟨c, cs, written, ?_, ne_of_isDigit digit rfl⟩
        simp [isSpace, ne_of_isDigit digit (d := ' ') rfl, ne_of_isDigit digit (d := '\t') rfl,
          ne_of_isDigit digit (d := '\n') rfl, ne_of_isDigit digit (d := '\r') rfl]
      · exact ⟨'-', cs, written, by decide, by decide⟩
  | string s => exact ⟨_, _, rfl, by decide, by decide⟩
  | @list items plain =>
      rw [write, Layout.enclose]
      split <;> exact ⟨_, _, rfl, by decide, by decide⟩
  | map distinct plain =>
      rw [write, Layout.enclose]
      split <;> exact ⟨_, _, rfl, by decide, by decide⟩

/-- A value that is read back, whatever follows its text. -/
def Reads (v : Value) : Prop :=
  ∀ layout depth fuel rest, Ends rest → 2 * (write layout depth v).length ≤ fuel →
    value? fuel (write layout depth v ++ rest) = some (v, rest)

theorem exists_fuel {text : List Char} {fuel : Nat} (filled : text ≠ [])
    (enough : 2 * text.length ≤ fuel) : ∃ before, fuel = before + 1 := by
  have positive : 0 < text.length := List.length_pos_iff.mpr filled
  exact ⟨fuel - 1, by omega⟩

theorem value?_of_other {c : Char} (other : c ≠ '"' ∧ c ≠ '[' ∧ c ≠ '\x7b') (fuel : Nat)
    (cs : List Char) : value? (fuel + 1) (c :: cs) = plain? (c :: cs) := by
  rw [value?.eq_def]
  dsimp only
  split
  · next same => exact absurd (List.head_eq_of_cons_eq same) other.1
  · next same => exact absurd (List.head_eq_of_cons_eq same) other.2.1
  · next same => exact absurd (List.head_eq_of_cons_eq same) other.2.2
  · rfl

theorem stringBody?_writeString (s : String) :
    ∃ body, writeString s = '"' :: body ∧
      ∀ rest, stringBody? ((body ++ rest).length + 1) [] (body ++ rest) = some (s, rest) := by
  refine ⟨s.toList.flatMap escapeChar ++ ['"'], rfl, fun rest => ?_⟩
  rw [List.append_assoc, List.singleton_append, stringBody?_flatMap, List.reverse_nil,
    List.nil_append, String.ofList_toList]
  have written := length_le_flatMap_escapeChar s.toList
  rw [List.length_append, List.length_cons]
  omega

theorem Reads.string (s : String) : Reads (.string s) := by
  intro layout depth fuel rest ends enough
  obtain ⟨body, written, read⟩ := stringBody?_writeString s
  rw [write, written] at enough ⊢
  obtain ⟨fuel, rfl⟩ := exists_fuel (List.cons_ne_nil _ _) enough
  rw [List.cons_append, value?, read]
  rfl

theorem Reads.int {n : Int} (short : (Value.int n).isTellable = true) : Reads (.int n) := by
  intro layout depth fuel rest ends enough
  obtain ⟨c, cs, written, first, read⟩ := plain?_toString short ends
  rw [write, written] at enough ⊢
  obtain ⟨fuel, rfl⟩ := exists_fuel (List.cons_ne_nil _ _) enough
  rw [List.cons_append, value?_of_other, read]
  rcases first with digit | rfl
  · exact ⟨ne_of_isDigit digit rfl, ne_of_isDigit digit rfl, ne_of_isDigit digit rfl⟩
  · decide

theorem Reads.null : Reads .null := by
  intro layout depth fuel rest ends enough
  obtain ⟨fuel, rfl⟩ := exists_fuel (List.cons_ne_nil _ _) enough
  rw [write, List.cons_append, value?_of_other (by decide)]
  simp [plain?, afterText?]

theorem Reads.bool (b : Bool) : Reads (.bool b) := by
  intro layout depth fuel rest ends enough
  cases b with
  | true =>
      obtain ⟨fuel, rfl⟩ := exists_fuel (List.cons_ne_nil _ _) enough
      rw [show write layout depth (.bool true) = ['t', 'r', 'u', 'e'] from rfl, List.cons_append,
        value?_of_other (by decide)]
      simp [plain?, afterText?]
  | false =>
      obtain ⟨fuel, rfl⟩ := exists_fuel (List.cons_ne_nil _ _) enough
      rw [show write layout depth (.bool false) = ['f', 'a', 'l', 's', 'e'] from rfl,
        List.cons_append, value?_of_other (by decide)]
      simp [plain?, afterText?]

section Items

variable {fuel : Nat} {read : List Value} {cs rest more : List Char} {item : Value}

theorem items?_more (found : value? fuel (skipSpace cs) = some (item, rest))
    (comma : skipSpace rest = ',' :: more) :
    items? (fuel + 1) read cs = items? fuel (item :: read) more := by
  simp only [items?, found, comma]

theorem items?_last (found : value? fuel (skipSpace cs) = some (item, rest))
    (closing : skipSpace rest = ']' :: more) :
    items? (fuel + 1) read cs = some (.list (read.reverse ++ [item]), more) := by
  simp only [items?, found, closing, List.reverse_cons]

end Items

/-- The items of a list after some white space, and the end of the list. -/
theorem items?_write {items : List Value} (filled : items ≠ [])
    (plain : ∀ item ∈ items, Plain item) (reads : ∀ item ∈ items, Reads item) (layout : Layout)
    (depth : Nat) {before after : List Char} (blank : ∀ c ∈ before, isSpace c = true)
    (blank' : ∀ c ∈ after, isSpace c = true) (read : List Value) {fuel : Nat}
    (enough : 2 * (List.intercalate (layout.separator depth) (writeItems layout depth items) ++
      after ++ [']']).length ≤ fuel) (rest : List Char) :
    items? fuel read (before ++ (List.intercalate (layout.separator depth)
      (writeItems layout depth items) ++ (after ++ ']' :: rest))) =
      some (.list (read.reverse ++ items), rest) := by
  induction items generalizing before read fuel with
  | nil => exact absurd rfl filled
  | cons item more induction =>
      obtain ⟨plainHere, plainLater⟩ := List.forall_mem_cons.mp plain
      obtain ⟨hread, readsLater⟩ := List.forall_mem_cons.mp reads
      obtain ⟨c, cs, written, other, -⟩ := write_eq_cons plainHere layout depth
      have skips : ∀ tail, skipSpace (before ++ (write layout depth item ++ tail)) =
          write layout depth item ++ tail := by
        intro tail
        rw [skipSpace_append blank, written, List.cons_append, skipSpace_cons other]
      obtain ⟨fuel, rfl⟩ := exists_fuel (by simp) enough
      cases more with
      | nil =>
          rw [writeItems, writeItems, List.intercalate_singleton] at enough ⊢
          simp only [List.length_append, List.length_cons] at enough
          have found := hread layout depth fuel (after ++ ']' :: rest)
            (.of_isSpace blank' (.cons (by decide))) (by omega)
          rw [← skips] at found
          exact items?_last found (by rw [skipSpace_append blank', skipSpace_cons (by decide)])
      | cons next more =>
          obtain ⟨gap, space, separated⟩ := layout.intercalate_cons depth
          have later : writeItems layout depth (next :: more) ≠ [] := List.cons_ne_nil _ _
          rw [writeItems, separated _ later] at enough ⊢
          simp only [List.length_append, List.length_cons] at enough
          rw [List.append_assoc, List.cons_append, List.append_assoc, items?_more, induction
            (List.cons_ne_nil _ _) plainLater readsLater space.isSpace (item :: read), List.reverse_cons,
            List.append_assoc]
          · rfl
          · simp only [List.length_append, List.length_cons]
            omega
          · rw [skips, hread layout depth fuel _ (.cons (by decide)) (by omega)]
          · exact skipSpace_cons (by decide) _

section Entries

variable {fuel : Nat} {read : Mapping} {cs rest more : List Char} {name : String} {value : Value}

/-- A name in quotes, a colon and a value. -/
def EntryAt (fuel : Nat) (cs : List Char) (name : String) (value : Value) (rest : List Char) :
    Prop :=
  ∃ body between after, skipSpace cs = '"' :: body ∧
    stringBody? (body.length + 1) [] body = some (name, between) ∧
    skipSpace between = ':' :: after ∧ value? fuel (skipSpace after) = some (value, rest)

theorem entries?_more (found : EntryAt fuel cs name value rest)
    (comma : skipSpace rest = ',' :: more) :
    entries? (fuel + 1) read cs = entries? fuel (read.insert (.string name) value) more := by
  obtain ⟨body, between, after, quote, named, colon, valued⟩ := found
  simp only [entries?, quote, named, colon, valued, comma]

theorem entries?_last (found : EntryAt fuel cs name value rest)
    (closing : skipSpace rest = '\x7d' :: more) :
    entries? (fuel + 1) read cs = some (.map (read.insert (.string name) value), more) := by
  obtain ⟨body, between, after, quote, named, colon, valued⟩ := found
  simp only [entries?, quote, named, colon, valued, closing]

def writeEntry (layout : Layout) (depth : Nat) (name : String) (value : Value) : List Char :=
  write layout depth (.string name) ++ ':' :: ' ' :: write layout depth value

theorem length_lt_writeEntry (layout : Layout) (depth : Nat) (name : String) (value : Value) :
    (write layout depth value).length < (writeEntry layout depth name value).length := by
  simp only [writeEntry, List.length_append, List.length_cons]
  omega

theorem entryAt_write (name : String) {value : Value} (plain : Plain value) (reads : Reads value)
    (layout : Layout) (depth : Nat) {before : List Char} (blank : ∀ c ∈ before, isSpace c = true)
    (enough : 2 * (write layout depth value).length ≤ fuel) (ends : Ends rest) :
    EntryAt fuel (before ++ (writeEntry layout depth name value ++ rest)) name value rest := by
  obtain ⟨body, quoted, named⟩ := stringBody?_writeString name
  obtain ⟨c, tail, written, other, -⟩ := write_eq_cons plain layout depth
  refine ⟨body ++ ':' :: ' ' :: (write layout depth value ++ rest), _, _, ?_, named _,
    skipSpace_cons (by decide) _, ?_⟩
  · rw [skipSpace_append blank, writeEntry, write, quoted, List.append_assoc, List.cons_append,
      skipSpace_cons (by decide)]
    rfl
  · have skips : skipSpace (' ' :: (write layout depth value ++ rest)) =
        write layout depth value ++ rest := by
      rw [← List.singleton_append, skipSpace_append (List.forall_mem_singleton.mpr rfl), written,
        List.cons_append, skipSpace_cons other]
    rw [skips, reads layout depth fuel rest ends enough]

end Entries

theorem insert_ofFields {fields : List (String × Value)} {name : String}
    (absent : name ∉ fields.map Prod.fst) (value : Value) :
    Keyed.insert (.string name) value (Mapping.ofFields fields) =
      Mapping.ofFields (fields ++ [(name, value)]) := by
  induction fields with
  | nil => rfl
  | cons field more induction =>
      rw [List.map_cons, List.mem_cons, not_or] at absent
      rw [Mapping.ofFields_cons, Keyed.insert, if_neg (by simpa using Ne.symm absent.1)]
      exact congrArg _ (induction absent.2)

/-- The entries of a mapping after some white space, and the end of the mapping. -/
theorem entries?_write {fields : List (String × Value)} (filled : fields ≠ [])
    (plain : ∀ field ∈ fields, Plain field.2) (reads : ∀ field ∈ fields, Reads field.2)
    (layout : Layout) (depth : Nat) {before after : List Char}
    (blank : ∀ c ∈ before, isSpace c = true) (blank' : ∀ c ∈ after, isSpace c = true)
    {read : List (String × Value)} (distinct : ((read ++ fields).map Prod.fst).Nodup) {fuel : Nat}
    (enough : 2 * (List.intercalate (layout.separator depth)
      (writeEntries layout depth (Mapping.ofFields fields)) ++ after ++ ['\x7d']).length ≤ fuel)
    (rest : List Char) :
    entries? fuel (Mapping.ofFields read) (before ++ (List.intercalate (layout.separator depth)
      (writeEntries layout depth (Mapping.ofFields fields)) ++ (after ++ '\x7d' :: rest))) =
      some (.map (Mapping.ofFields (read ++ fields)), rest) := by
  induction fields generalizing before read fuel with
  | nil => exact absurd rfl filled
  | cons field more induction =>
      obtain ⟨name, value⟩ := field
      have plainHere : Plain value := plain _ List.mem_cons_self
      have hread : Reads value := reads _ List.mem_cons_self
      have longer := length_lt_writeEntry layout depth name value
      have absent : name ∉ read.map Prod.fst := by
        rw [List.map_append, List.nodup_append] at distinct
        exact fun member => distinct.2.2 name member name List.mem_cons_self rfl
      obtain ⟨fuel, rfl⟩ := exists_fuel (by simp) enough
      have written : writeEntries layout depth (Mapping.ofFields ((name, value) :: more)) =
          writeEntry layout depth name value ::
            writeEntries layout depth (Mapping.ofFields more) := rfl
      cases more with
      | nil =>
          rw [written, show writeEntries layout depth (Mapping.ofFields []) = [] from rfl,
            List.intercalate_singleton] at enough ⊢
          simp only [List.length_append, List.length_cons] at enough
          rw [entries?_last (entryAt_write name plainHere hread layout depth blank (by omega)
            (.of_isSpace blank' (.cons (by decide)))), insert_ofFields absent]
          rw [skipSpace_append blank', skipSpace_cons (by decide)]
      | cons next more =>
          obtain ⟨gap, space, separated⟩ := layout.intercalate_cons depth
          have later : writeEntries layout depth (Mapping.ofFields (next :: more)) ≠ [] :=
            List.cons_ne_nil _ _
          rw [written, separated _ later] at enough ⊢
          simp only [List.length_append, List.length_cons] at enough
          rw [List.append_assoc, List.cons_append, List.append_assoc,
            entries?_more (entryAt_write name plainHere hread layout depth blank (by omega)
              (.cons (by decide))) (skipSpace_cons (by decide) _), insert_ofFields absent,
            induction (List.cons_ne_nil _ _)
              (fun field member => plain field (List.mem_cons_of_mem _ member))
              (fun field member => reads field (List.mem_cons_of_mem _ member)) space.isSpace]
          · rw [List.append_assoc, List.singleton_append]
          · rw [List.append_assoc, List.singleton_append]
            exact distinct
          · simp only [List.length_append, List.length_cons]
            omega

section Inside

variable {fuel : Nat} {c : Char} {blanks : List Char}

theorem value?_list (blank : ∀ c ∈ blanks, isSpace c = true) (other : isSpace c = false)
    (filled : c ≠ ']') (cs : List Char) :
    value? (fuel + 1) ('[' :: (blanks ++ c :: cs)) = items? fuel [] (c :: cs) := by
  rw [value?, skipSpace_append blank, skipSpace_cons other]
  split
  · next same => exact absurd (List.head_eq_of_cons_eq same) filled
  · rfl

theorem value?_map (blank : ∀ c ∈ blanks, isSpace c = true) (other : isSpace c = false)
    (filled : c ≠ '\x7d') (cs : List Char) :
    value? (fuel + 1) ('\x7b' :: (blanks ++ c :: cs)) = entries? fuel [] (c :: cs) := by
  rw [value?, skipSpace_append blank, skipSpace_cons other]
  split
  · next same => exact absurd (List.head_eq_of_cons_eq same) filled
  · rfl

end Inside

theorem Reads.list {items : List Value} (plain : ∀ item ∈ items, Plain item)
    (reads : ∀ item ∈ items, Reads item) : Reads (.list items) := by
  intro layout depth fuel rest ends enough
  rw [write] at enough ⊢
  obtain ⟨fuel, rfl⟩ := exists_fuel (Layout.enclose_ne_nil _ _ _ _ _) enough
  cases items with
  | nil => rfl
  | cons item more =>
      have filled : writeItems layout (depth + 1) (item :: more) ≠ [] := List.cons_ne_nil _ _
      have inside := Layout.length_lt_enclose layout depth '[' ']' filled
      have enough : 2 * (List.intercalate (layout.separator (depth + 1))
          (writeItems layout (depth + 1) (item :: more)) ++ layout.lineBreak depth ++
          [']']).length ≤ fuel := by omega
      have read := items?_write (List.cons_ne_nil item more) plain reads layout (depth + 1)
        (show ∀ c ∈ [], isSpace c = true from nofun) (Layout.blank_lineBreak layout depth).isSpace []
        enough rest
      obtain ⟨c, cs, written, other, closing⟩ :=
        write_eq_cons (plain item List.mem_cons_self) layout (depth + 1)
      obtain ⟨tail, first⟩ : ∃ tail, List.intercalate (layout.separator (depth + 1))
          (writeItems layout (depth + 1) (item :: more)) = c :: tail := by
        rw [writeItems, written, List.intercalate_cons_cons_left]
        exact ⟨_, rfl⟩
      rw [Layout.enclose_append layout depth '[' ']' filled, first, List.cons_append,
        value?_list (Layout.blank_lineBreak layout _).isSpace other closing, ← List.cons_append, ← first]
      exact read

theorem Reads.map {fields : List (String × Value)} (distinct : (fields.map Prod.fst).Nodup)
    (plain : ∀ field ∈ fields, Plain field.2) (reads : ∀ field ∈ fields, Reads field.2) :
    Reads (.map (Mapping.ofFields fields)) := by
  intro layout depth fuel rest ends enough
  rw [write] at enough ⊢
  obtain ⟨fuel, rfl⟩ := exists_fuel (Layout.enclose_ne_nil _ _ _ _ _) enough
  cases fields with
  | nil => rfl
  | cons field more =>
      have filled : writeEntries layout (depth + 1) (Mapping.ofFields (field :: more)) ≠ [] :=
        List.cons_ne_nil _ _
      have inside := Layout.length_lt_enclose layout depth '\x7b' '\x7d' filled
      have enough : 2 * (List.intercalate (layout.separator (depth + 1))
          (writeEntries layout (depth + 1) (Mapping.ofFields (field :: more))) ++
          layout.lineBreak depth ++ ['\x7d']).length ≤ fuel := by omega
      have read := entries?_write (List.cons_ne_nil field more) plain reads layout (depth + 1)
        (show ∀ c ∈ [], isSpace c = true from nofun) (Layout.blank_lineBreak layout depth).isSpace
        (show (([] ++ field :: more).map Prod.fst).Nodup from distinct) enough rest
      obtain ⟨tail, first⟩ : ∃ tail, List.intercalate (layout.separator (depth + 1))
          (writeEntries layout (depth + 1) (Mapping.ofFields (field :: more))) = '"' :: tail := by
        rw [Mapping.ofFields_cons, writeEntries, write, writeString, List.cons_append,
          List.cons_append, List.intercalate_cons_cons_left]
        exact ⟨_, rfl⟩
      rw [Layout.enclose_append layout depth '\x7b' '\x7d' filled, first, List.cons_append,
        value?_map (Layout.blank_lineBreak layout _).isSpace (by decide) (by decide),
        ← List.cons_append, ← first]
      exact read

theorem Plain.reads {v : Value} (plain : Plain v) : Reads v := by
  induction plain with
  | null => exact .null
  | bool b => exact .bool b
  | int short => exact .int short
  | string s => exact .string s
  | list plain induction => exact .list plain induction
  | map distinct plain induction => exact .map distinct plain induction

/-- Plain values are read back from their text, which may end in white space. -/
theorem read?_write {v : Value} (plain : Plain v) (layout : Layout) {blanks : List Char}
    (blank : ∀ c ∈ blanks, isSpace c = true) :
    read? (String.ofList (write layout 0 v ++ blanks)) = some v := by
  obtain ⟨c, cs, written, other, -⟩ := write_eq_cons plain layout 0
  have ends : Ends blanks := by simpa using Ends.of_isSpace blank .nil
  have skips : skipSpace (write layout 0 v ++ blanks) = write layout 0 v ++ blanks := by
    rw [written, List.cons_append, skipSpace_cons other]
  have nothing : skipSpace blanks = [] := by
    rw [← List.append_nil blanks, skipSpace_append blank]
    rfl
  have read := plain.reads layout 0 (2 * (write layout 0 v ++ blanks).length + 2) blanks ends
    (by rw [List.length_append]; omega)
  simp only [read?, String.toList_ofList, skips, read, nothing, List.isEmpty_nil, if_true]

theorem ofEntries_ofFields {fields : List (String × Value)}
    (distinct : (fields.map Prod.fst).Nodup) :
    Mapping.ofEntries (Mapping.ofFields fields) = Mapping.ofFields fields := by
  have general : ∀ read : List (String × Value), ((read ++ fields).map Prod.fst).Nodup →
      (Mapping.ofFields fields).foldl (fun m entry => Keyed.insert entry.1 entry.2 m)
        (Mapping.ofFields read) = Mapping.ofFields (read ++ fields) := by
    clear distinct
    induction fields with
    | nil =>
        intro read distinct
        rw [List.append_nil]
        rfl
    | cons field more induction =>
        intro read distinct
        have absent : field.1 ∉ read.map Prod.fst := by
          rw [List.map_append, List.nodup_append] at distinct
          exact fun member => distinct.2.2 _ member _ List.mem_cons_self rfl
        rw [Mapping.ofFields_cons, List.foldl_cons, insert_ofFields absent]
        rw [List.append_cons read field more] at distinct ⊢
        exact induction _ distinct
  exact general [] distinct

theorem imageItems?_of_forall {items : List Value} (written : ∀ item ∈ items, image? item = .ok item) :
    imageItems? items = .ok items := by
  induction items with
  | nil => rfl
  | cons item more induction =>
      obtain ⟨here, later⟩ := List.forall_mem_cons.mp written
      rw [imageItems?, here, induction later]
      rfl

theorem imageEntries?_of_forall {fields : List (String × Value)}
    (written : ∀ field ∈ fields, image? field.2 = .ok field.2) :
    imageEntries? (Mapping.ofFields fields) = .ok (Mapping.ofFields fields) := by
  induction fields with
  | nil => rfl
  | cons field more induction =>
      obtain ⟨here, later⟩ := List.forall_mem_cons.mp written
      rw [Mapping.ofFields_cons, imageEntries?, here, induction later]
      rfl

/-- Plain values are their own images. -/
theorem Plain.image {v : Value} (plain : Plain v) : image? v = .ok v := by
  induction plain with
  | null => rfl
  | bool b => rfl
  | int short => rw [image?_int, if_pos short]
  | string s => rfl
  | list plain induction =>
      rw [image?.eq_def]
      dsimp only
      rw [imageItems?_of_forall induction]
      rfl
  | map distinct plain induction =>
      rw [image?.eq_def]
      dsimp only
      rw [imageEntries?_of_forall induction]
      exact congrArg (fun m => Except.ok (Value.map m)) (ofEntries_ofFields distinct)

end Json

end WalCheckpoint
