import WalCheckpoint.Proofs.Json.Characters
import WalCheckpoint.Proofs.Yaml.FlowTokens
import WalCheckpoint.Proofs.Yaml.Numeral
import WalCheckpoint.Yaml.Document

namespace WalCheckpoint.Yaml

open Json.Layout (Blank)

/-! A mapping that is written as JSON text, with words for its names and without parts in its
values, is read back as that mapping. -/

/-- Values that are one word each. -/
inductive Flat : Value → Prop
  | null : Flat .null
  | bool (b : Bool) : Flat (.bool b)
  | int {n : Int} (short : n.natAbs < Nat.pow 10 Text.Numeral.digitLimit) : Flat (.int n)

/-- The word that is written for a value, in whatever layout, and that is read as the value. -/
structure Spells (word : List Char) (v : Value) : Prop where
  written : ∀ layout depth, Json.write layout depth v = word
  begins : Outline.BeginsWord word
  chars : ∀ x ∈ word, isWordChar x = true
  read : scalarValue (.ofPlain (String.ofList word)) (.sound (String.ofList word)) = .ok v

theorem isWordChar_of_isDigit {c : Char} (digit : c.isDigit = true) : isWordChar c = true := by
  rw [isWordChar, Char.isAlphanum, digit, Bool.or_true]
  rfl

theorem spells_int {n : Int} (short : n.natAbs < Nat.pow 10 Text.Numeral.digitLimit) :
    Spells (toString n).toList (.int n) where
  written layout depth := by rw [Json.write]
  begins := by
    obtain ⟨c, cs, digits⟩ :=
      List.exists_cons_of_ne_nil (Nat.toDigits_ne_nil (n := n.natAbs) (b := 10))
    have digit : c.isDigit = true := isDigit_of_mem_toDigits (digits ▸ List.mem_cons_self)
    have word := isWordChar_of_isDigit digit
    have unsigned : c ≠ '-' := Json.ne_of_isDigit digit rfl
    rw [toList_toString_int, digits]
    split
    · exact ⟨'-', c :: cs, rfl, by decide, fun _ => ⟨c, cs, rfl, word, unsigned⟩⟩
    · exact ⟨c, cs, rfl, word, fun minus => absurd minus unsigned⟩
  chars x member := by
    rcases Number.mem_toString n member with rfl | digit
    · decide
    · exact isWordChar_of_isDigit digit
  read := by
    rw [String.ofList_toList, Tag.ofPlain_toString, scalarValue, Number.readInt_toString short]
    rfl

theorem spells_null : Spells ['n', 'u', 'l', 'l'] .null where
  written layout depth := by rw [Json.write]
  begins := ⟨'n', _, rfl, by decide, fun minus => absurd minus (by decide)⟩
  chars := List.all_eq_true.mp (by decide)
  read := by
    have tag : Tag.ofPlain (String.ofList ['n', 'u', 'l', 'l']) = .null := by decide +kernel
    rw [tag]
    rfl

theorem spells_bool (b : Bool) : Spells (Json.writeBool b).toList (.bool b) where
  written layout depth := by rw [Json.write]
  begins := by
    cases b with
    | true => exact ⟨'t', _, rfl, by decide, fun minus => absurd minus (by decide)⟩
    | false => exact ⟨'f', _, rfl, by decide, fun minus => absurd minus (by decide)⟩
  chars := List.all_eq_true.mp (by cases b <;> decide)
  read := by
    have tag : Tag.ofPlain (Json.writeBool b) = .bool := by cases b <;> decide +kernel
    have word : boolWord? (Json.writeBool b) = some b := by cases b <;> decide +kernel
    rw [String.ofList_toList, tag, scalarValue, word]
    rfl

theorem Flat.spells {v : Value} (flat : Flat v) : ∃ word, Spells word v := by
  cases flat with
  | null => exact ⟨_, spells_null⟩
  | bool b => exact ⟨_, spells_bool b⟩
  | int short => exact ⟨_, spells_int short⟩

theorem Flat.plain {v : Value} (flat : Flat v) : Json.Plain v := by
  cases flat with
  | null => exact .null
  | bool b => exact .bool b
  | int short => exact .int ((Value.isTellable_int_iff _).mpr short)

/-! The tokens of the fields. -/

def valueText (value : Value) : String :=
  String.ofList (Json.write .line 0 value)

theorem Spells.valueText {word : List Char} {v : Value} (spells : Spells word v) :
    valueText v = String.ofList word := by
  rw [Yaml.valueText, spells.written]

def fieldTokens : List (String × Value) → List Token
  | [] => []
  | [(name, value)] => [.key, .scalar (.sound name) false, .value, .scalar (.sound (valueText value)) true]
  | (name, value) :: next :: more =>
      .key :: .scalar (.sound name) false :: .value :: .scalar (.sound (valueText value)) true ::
        .flowEntry :: fieldTokens (next :: more)

/-- Fields that are told apart by words, each of which has one word for its value. -/
structure PlainField (field : String × Value) : Prop where
  word : ∀ x ∈ field.1.toList, isWordChar x = true
  short : field.1.length ≤ 1000
  flat : Flat field.2

namespace Outline

variable {o : Outline} {blanks rest : List Char} {tokens : List Token} {field : String × Value}

theorem writeString_word {name : String} (word : ∀ x ∈ name.toList, isWordChar x = true) :
    Json.writeString name = '"' :: (name.toList ++ ['"']) := by
  have plain : ∀ x ∈ name.toList, Json.escapeChar x = [x] := fun x member => by
    have letter := word x member
    have other {d : Char} (special : isWordChar d = false) : x ≠ d :=
      ne_of_isWordChar letter special
    obtain ⟨low, high⟩ := toNat_of_isWordChar letter
    rw [Json.escapeChar, if_neg (other rfl), if_neg (other rfl), if_neg (other rfl),
      if_neg (other rfl), if_neg (other rfl), if_neg (by omega), if_neg (by omega),
      if_pos (by omega)]
  rw [Json.writeString, List.flatMap_def, List.map_congr_left plain, ← List.flatMap_def,
    List.flatMap_singleton']
  rfl

theorem At.entry {layout : Json.Layout} {depth : Nat} {left : List Char} {mark : Char}
    (plain : PlainField field)
    (at_ : o.At 1 (blanks ++ (Json.writeEntry layout depth field.1 field.2 ++
      (left ++ mark :: rest))) tokens)
    (blank : Blank blanks) (allows : o.allowsKey = true) (blank' : Blank left)
    (isMark : Plain.IsMark mark) :
    ∃ o', o.Reaches o' ∧ o'.At 1 (mark :: rest)
      (.scalar (.sound (valueText field.2)) true :: .value :: .scalar (.sound field.1) false ::
        .key :: tokens) := by
  obtain ⟨word, spells⟩ := plain.flat.spells
  have spread : Json.writeEntry layout depth field.1 field.2 ++ (left ++ mark :: rest) =
      '"' :: (field.1.toList ++ '"' :: ':' :: ([' '] ++ (word ++ (left ++ mark :: rest)))) := by
    rw [Json.writeEntry, spells.written, Json.write, writeString_word plain.word]
    simp
  rw [spread] at at_
  obtain ⟨named, toName, colon⟩ := at_.name blank allows plain.word plain.short
  obtain ⟨keyed, toKey, at_⟩ := colon.key
  have space : Blank [' '] := List.forall_mem_singleton.mpr (.inl rfl)
  obtain ⟨o', toValue, at_⟩ := at_.word space spells.begins spells.chars blank' isMark
  rw [spells.valueText]
  exact ⟨o', toName.trans (toKey.trans toValue), at_⟩

theorem At.entries {fields : List (String × Value)} (filled : fields ≠ [])
    (plain : ∀ field ∈ fields, PlainField field) (layout : Json.Layout) (depth : Nat)
    {left : List Char}
    (at_ : o.At 1 (blanks ++ (List.intercalate (layout.separator depth)
      (Json.writeEntries layout depth (Mapping.ofFields fields)) ++ (left ++ '\x7d' :: rest)))
        tokens)
    (blank : Blank blanks) (allows : o.allowsKey = true) (blank' : Blank left) :
    ∃ o', o.Reaches o' ∧ o'.At 1 ('\x7d' :: rest) ((fieldTokens fields).reverse ++ tokens) := by
  induction fields generalizing o blanks tokens with
  | nil => exact absurd rfl filled
  | cons field more induction =>
      obtain ⟨name, value⟩ := field
      have here : PlainField (name, value) := plain _ List.mem_cons_self
      have written : Json.writeEntries layout depth (Mapping.ofFields ((name, value) :: more)) =
          Json.writeEntry layout depth name value ::
            Json.writeEntries layout depth (Mapping.ofFields more) := rfl
      cases more with
      | nil =>
          rw [written, show Json.writeEntries layout depth (Mapping.ofFields []) = [] from rfl,
            List.intercalate_singleton] at at_
          exact at_.entry here blank allows blank' (.inr rfl)
      | cons next more =>
          obtain ⟨gap, space, separated⟩ := layout.intercalate_cons depth
          have later : Json.writeEntries layout depth (Mapping.ofFields (next :: more)) ≠ [] :=
            List.cons_ne_nil _ _
          rw [written, separated _ later, List.append_assoc, List.cons_append, List.append_assoc,
            ← List.nil_append (',' :: _)] at at_
          obtain ⟨valued, toValue, at_⟩ := at_.entry here blank allows .nil (.inl rfl)
          obtain ⟨parted, toComma, at_, allows⟩ := at_.comma
          obtain ⟨o', toEnd, at_⟩ := induction (List.cons_ne_nil _ _)
            (fun field member => plain field (List.mem_cons_of_mem _ member)) at_ space allows
          refine ⟨o', toValue.trans (toComma.trans toEnd), ?_⟩
          simpa [fieldTokens] using at_

theorem At.mapping {fields : List (String × Value)} (plain : ∀ field ∈ fields, PlainField field)
    (layout : Json.Layout)
    (at_ : o.At 0 (Json.write layout 0 (.map (Mapping.ofFields fields)) ++ rest) tokens) :
    ∃ o', o.Reaches o' ∧ o'.At 0 rest
      (.flowMappingEnd :: ((fieldTokens fields).reverse ++ .flowMappingStart :: tokens)) := by
  cases fields with
  | nil =>
      have empty : Json.write layout 0 (.map (Mapping.ofFields [])) = ['\x7b', '\x7d'] := rfl
      rw [empty] at at_
      obtain ⟨opened, toOpening, at_, -⟩ := at_.opening
      obtain ⟨o', toClosing, at_⟩ := at_.closing
      exact ⟨o', toOpening.trans toClosing, at_⟩
  | cons field more =>
      have filled : Json.writeEntries layout 1 (Mapping.ofFields (field :: more)) ≠ [] :=
        List.cons_ne_nil _ _
      rw [Json.write, Json.Layout.enclose_append _ _ _ _ filled] at at_
      obtain ⟨opened, toOpening, at_, allows⟩ := at_.opening
      obtain ⟨read, toEntries, at_⟩ := at_.entries (List.cons_ne_nil _ _) plain layout 1
        (layout.blank_lineBreak 1) allows (layout.blank_lineBreak 0)
      obtain ⟨o', toClosing, at_⟩ := at_.closing
      exact ⟨o', toOpening.trans (toEntries.trans toClosing), at_⟩

end Outline

section Characters

variable {fields : List (String × Value)} {blanks : List Char}

/-- The characters that a line may hold in ASCII, and its end. -/
def isLineChar (c : Char) : Bool :=
  c == '\n' || (0x20 ≤ c.toNat && c.toNat ≤ 0x7E)

theorem isPrintable_of_isLineChar {c : Char} (line : isLineChar c = true) :
    isPrintable c = true := by
  rw [isLineChar, Bool.or_eq_true, beq_iff_eq] at line
  rcases line with rfl | ascii
  · rfl
  · simp [isPrintable, ascii]

theorem ne_return_of_isLineChar {c : Char} (line : isLineChar c = true) : c ≠ '\r' := by
  rintro rfl
  exact absurd line (by decide)

theorem isLineChar_of_allows {layout : Json.Layout} {c : Char} (allowed : layout.Allows c) :
    isLineChar c = true := by
  rw [isLineChar, Bool.or_eq_true, Bool.and_eq_true, beq_iff_eq, decide_eq_true_eq,
    decide_eq_true_eq]
  exact allowed.symm.imp_left And.left

theorem all_isLineChar_mapping (plain : ∀ field ∈ fields, PlainField field)
    (layout : Json.Layout) (blank : Blank blanks) :
    (Json.write layout 0 (.map (Mapping.ofFields fields)) ++ blanks).all isLineChar = true := by
  have printed : Json.Printed (.map (Mapping.ofFields fields)) :=
    .map fun field member => (plain field member).flat.plain.printed
  refine List.all_eq_true.mpr (List.forall_mem_append.mpr ⟨fun x member => ?_, fun x member => ?_⟩)
  · exact isLineChar_of_allows (printed layout 0 x member)
  · rcases blank x member with rfl | rfl <;> decide

end Characters

/-- The text of a mapping and blanks after it fall into the tokens of its fields. -/
theorem Token.ofText_write {fields : List (String × Value)}
    (plain : ∀ field ∈ fields, PlainField field) (layout : Json.Layout) {blanks : List Char}
    (blank : Blank blanks) :
    Token.ofText (String.ofList (Json.write layout 0 (.map (Mapping.ofFields fields)) ++ blanks)) =
      .flowMappingStart :: (fieldTokens fields ++ [.flowMappingEnd, .streamEnd]) := by
  have printable : (Json.write layout 0 (.map (Mapping.ofFields fields)) ++ blanks).all
      isPrintable = true :=
    List.all_eq_true.mpr fun x member => isPrintable_of_isLineChar
      (List.all_eq_true.mp (all_isLineChar_mapping plain layout blank) x member)
  have begun : Outline.At
      (.start (String.ofList (Json.write layout 0 (.map (Mapping.ofFields fields)) ++ blanks))) 0
      (Json.write layout 0 (.map (Mapping.ofFields fields)) ++ blanks) [] :=
    ⟨rfl, rfl, rfl, String.toList_ofList, rfl, nofun⟩
  obtain ⟨ended, reaches, at_⟩ := begun.mapping plain layout
  obtain ⟨fuel, enough, same⟩ := reaches.tokensWithin (Nat.le_refl _)
  rw [Token.ofText, String.toList_ofList, printable, if_pos rfl]
  rw [begun.rest, ← String.length_ofList] at same
  rw [same, at_.end_ blank (by omega)]
  simp

end WalCheckpoint.Yaml
