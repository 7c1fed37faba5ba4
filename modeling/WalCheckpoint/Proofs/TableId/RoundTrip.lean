import Mathlib.Data.List.TakeWhile
import WalCheckpoint.TableId

namespace WalCheckpoint.TableId

/-! Table identifiers as text: which of them are read back from what is written of them, and which
texts are written back from what is read. -/

/-- The part of a text after its last dot, or the whole text where it has none. -/
inductive LastPart : List Char → List Char → Prop
  | whole {cs : List Char} (plain : '.' ∉ cs) : LastPart cs cs
  | after {front part : List Char} (plain : '.' ∉ part) : LastPart (front ++ '.' :: part) part

/-- Identifiers with a name for the table and none that is empty, whose dots are all in the schema. -/
structure Proper (t : TableId) : Prop where
  table : ∃ name, t.table = some name ∧ name ≠ "" ∧ '.' ∉ name.toList
  schema : t.schema ≠ some ""

section Split

variable {cs front part : List Char}

theorem undotted_of_not_mem (plain : '.' ∉ part) : ∀ c ∈ part.reverse, decide (c ≠ '.') = true := by
  intro c member
  apply decide_eq_true
  rintro rfl
  exact plain (List.mem_reverse.mp member)

theorem splitLastDot?_of_not_mem (plain : '.' ∉ cs) : splitLastDot? cs = none := by
  rw [splitLastDot?, List.dropWhile_eq_nil_iff.mpr (undotted_of_not_mem plain)]

theorem splitLastDot?_append (front : List Char) (plain : '.' ∉ part) :
    splitLastDot? (front ++ '.' :: part) = some (front, part) := by
  have undotted := undotted_of_not_mem plain
  have turned : (front ++ '.' :: part).reverse = part.reverse ++ '.' :: front.reverse := by simp
  rw [splitLastDot?, turned, List.dropWhile_append_of_pos undotted,
    List.takeWhile_append_of_pos undotted]
  simp

theorem exists_lastDot (dotted : '.' ∈ cs) :
    ∃ front part, cs = front ++ '.' :: part ∧ '.' ∉ part := by
  obtain ⟨last, front, turned, plain⟩ :=
    List.eq_append_cons_of_mem (List.mem_reverse.mpr dotted)
  refine ⟨front.reverse, last.reverse, ?_, by simpa using plain⟩
  rw [← List.reverse_reverse cs, turned]
  simp

theorem exists_lastPart (cs : List Char) : ∃ part, LastPart cs part := by
  by_cases dotted : '.' ∈ cs
  · obtain ⟨front, part, rfl, plain⟩ := exists_lastDot dotted
    exact ⟨part, .after plain⟩
  · exact ⟨cs, .whole dotted⟩

theorem LastPart.eq (last : LastPart cs part) :
    part = ((splitLastDot? cs).map Prod.snd).getD cs := by
  cases last with
  | whole plain => rw [splitLastDot?_of_not_mem plain]; rfl
  | after plain => rw [splitLastDot?_append _ plain]; rfl

theorem LastPart.unique {part' : List Char} (last : LastPart cs part) (last' : LastPart cs part') :
    part = part' :=
  last.eq.trans last'.eq.symm

end Split

section Read

variable {text : String} {front part : List Char}

theorem read_of_undotted (filled : text ≠ "") (plain : '.' ∉ text.toList) :
    read text = .ok ⟨none, some text⟩ := by
  rw [read, if_neg (by simpa using filled), splitLastDot?_of_not_mem plain]

theorem read_of_dotted (split : text.toList = front ++ '.' :: part) (plain : '.' ∉ part) :
    read text = .ok ⟨nonEmpty? front, nonEmpty? part⟩ := by
  have filled : text ≠ "" := by
    rintro rfl
    simp at split
  rw [read, if_neg (by simpa using filled), split, splitLastDot?_append front plain]

theorem read_empty_iff : read text = .error .empty ↔ text = "" := by
  constructor
  · intro refused
    by_contra filled
    rw [read, if_neg (by simpa using filled)] at refused
    split at refused <;> contradiction
  · rintro rfl
    rfl

theorem nonEmpty?_ne (cs : List Char) : nonEmpty? cs ≠ some "" := by
  rw [nonEmpty?]
  split
  · exact (Option.some_ne_none _).symm
  · next filled =>
      intro empty
      exact filled (List.isEmpty_iff.mpr (String.ofList_inj.mp (Option.some.inj empty)))

/-- No name that is read is empty, and no table that is read has a dot. -/
theorem read_names {t : TableId} (told : read text = .ok t) :
    t.schema ≠ some "" ∧ ∀ name ∈ t.table, name ≠ "" ∧ '.' ∉ name.toList := by
  by_cases dotted : '.' ∈ text.toList
  · obtain ⟨front, part, split, plain⟩ := exists_lastDot dotted
    rw [read_of_dotted split plain] at told
    obtain rfl := Except.ok.inj told
    refine ⟨nonEmpty?_ne front, fun name (known : nonEmpty? part = some name) => ?_⟩
    refine ⟨fun empty => nonEmpty?_ne part (empty ▸ known), ?_⟩
    rw [nonEmpty?] at known
    split at known
    · contradiction
    · obtain rfl := Option.some.inj known
      rwa [String.toList_ofList]
  · have filled : text ≠ "" := by
      rintro rfl
      contradiction
    rw [read_of_undotted filled dotted] at told
    obtain rfl := Except.ok.inj told
    refine ⟨(Option.some_ne_none _).symm, fun name known => ?_⟩
    obtain rfl := Option.some.inj known
    exact ⟨filled, dotted⟩

end Read

section Write

theorem write_of_unnamed (schema : Option String) :
    write ⟨schema, none⟩ = write ⟨schema, some unknownName⟩ := rfl

theorem Proper.read_write {t : TableId} (proper : Proper t) : read t.write = .ok t := by
  obtain ⟨schema, table⟩ := t
  obtain ⟨⟨name, rfl, filled, plain⟩, named⟩ := proper
  cases schema with
  | none => exact read_of_undotted filled plain
  | some schema =>
      have known : schema ≠ "" := fun empty => named (congrArg some empty)
      have written : (write ⟨some schema, some name⟩).toList =
          schema.toList ++ '.' :: name.toList := by
        simp [write, known]
      rw [read_of_dotted written plain]
      simp [nonEmpty?, known, filled]

theorem read_write_iff (t : TableId) : read t.write = .ok t ↔ Proper t := by
  refine ⟨fun told => ?_, Proper.read_write⟩
  obtain ⟨named, names⟩ := read_names told
  obtain ⟨schema, table⟩ := t
  cases table with
  | some name => exact ⟨⟨name, rfl, names name rfl⟩, named⟩
  | none =>
      -- The word for a table without a name is read as a name.
      have proper : Proper ⟨schema, some unknownName⟩ := ⟨⟨_, rfl, by decide, by decide⟩, named⟩
      rw [write_of_unnamed, proper.read_write] at told
      exact absurd (TableId.mk.inj (Except.ok.inj told)).2 (Option.some_ne_none _)

theorem toList_write_nonEmpty? (front part : List Char) :
    (write ⟨nonEmpty? front, nonEmpty? part⟩).toList =
      (if front = [] then [] else front ++ ['.']) ++
        if part = [] then unknownName.toList else part := by
  by_cases noFront : front = [] <;> by_cases noPart : part = [] <;>
    simp [write, nonEmpty?, noFront, noPart]

theorem write_nonEmpty?_iff {text : String} {front part : List Char}
    (split : text.toList = front ++ '.' :: part) :
    write ⟨nonEmpty? front, nonEmpty? part⟩ = text ↔ front ≠ [] ∧ part ≠ [] := by
  rw [← String.toList_inj, toList_write_nonEmpty?, split]
  constructor
  · intro same
    have lengths := congrArg List.length same
    by_cases noFront : front = [] <;> by_cases noPart : part = [] <;>
      simp [noFront, noPart, unknownName] at lengths ⊢
  · rintro ⟨filledFront, filledPart⟩
    rw [if_neg filledFront, if_neg filledPart, List.append_assoc, List.singleton_append]

/-- A text that begins with its only dot. -/
def OnlyLeadingDot (cs : List Char) : Prop :=
  ∃ rest, cs = '.' :: rest ∧ '.' ∉ rest

theorem onlyLeadingDot_append_iff {front part : List Char} (plain : '.' ∉ part) :
    OnlyLeadingDot (front ++ '.' :: part) ↔ front = [] := by
  constructor
  · rintro ⟨rest, same, undotted⟩
    cases front with
    | nil => rfl
    | cons first front =>
        rw [List.cons_append] at same
        refine absurd ?_ undotted
        rw [← (List.cons.inj same).2]
        exact List.mem_append_right front List.mem_cons_self
  · rintro rfl
    exact ⟨part, rfl, plain⟩

theorem read_map_write_iff {text : String} {part : List Char} (last : LastPart text.toList part) :
    (read text).map write = .ok text ↔ part ≠ [] ∧ ¬ OnlyLeadingDot text.toList := by
  generalize characters : text.toList = cs at last
  cases last with
  | whole plain =>
      have undotted : ¬ OnlyLeadingDot part := by
        rintro ⟨rest, rfl, -⟩
        exact plain List.mem_cons_self
      by_cases filled : text = ""
      · subst filled
        exact iff_of_false nofun fun ⟨nonempty, _⟩ => nonempty characters.symm
      · rw [read_of_undotted filled (characters ▸ plain)]
        refine iff_of_true rfl ⟨?_, undotted⟩
        rintro rfl
        exact filled (String.toList_eq_nil_iff.mp characters)
  | @after front part plain =>
      rw [read_of_dotted characters plain, onlyLeadingDot_append_iff plain, and_comm,
        ← write_nonEmpty?_iff characters]
      exact ⟨Except.ok.inj, congrArg Except.ok⟩

end Write

/-- An identifier is read back from its text exactly where it names a table without a dot and has no
empty name. Every text but the empty one is read, and is written back exactly where something stands
after its last dot and its first character is not its only dot. -/
theorem read_write_exact (t : TableId) (text : String) :
    (read t.write = .ok t ↔ Proper t) ∧
    (read text = .error .empty ↔ text = "") ∧
    ((read text).map write = .ok text ↔
      (∃ part, LastPart text.toList part ∧ part ≠ []) ∧ ¬ OnlyLeadingDot text.toList) := by
  refine ⟨read_write_iff t, read_empty_iff, ?_⟩
  obtain ⟨part, last⟩ := exists_lastPart text.toList
  rw [read_map_write_iff last]
  refine and_congr_left fun _ => ⟨fun filled => ⟨part, last, filled⟩, ?_⟩
  rintro ⟨part', last', filled⟩
  exact last.unique last' ▸ filled

end WalCheckpoint.TableId
