import WalCheckpoint.Proofs.Json.RoundTrip

namespace WalCheckpoint.Json

/-! The characters of JSON text: it is ASCII that can be printed, on lines of its layout. -/

/-- The characters that stand in a text: printed ones, and line ends where parts have lines of
their own. -/
def Layout.Allows (layout : Layout) (c : Char) : Prop :=
  (0x20 ≤ c.toNat ∧ c.toNat ≤ 0x7E) ∨ (c = '\n' ∧ layout ≠ .line)

namespace Layout

variable {layout : Layout} {depth : Nat}

theorem allows_word (word : List Char)
    (printed : (word.all fun c => 0x20 ≤ c.toNat && c.toNat ≤ 0x7E) = true) :
    ∀ c ∈ word, layout.Allows c := by
  intro c member
  have inside := List.all_eq_true.mp printed c member
  rw [Bool.and_eq_true, decide_eq_true_eq, decide_eq_true_eq] at inside
  exact .inl inside

theorem allows_ite {p : Prop} [Decidable p] {first second : List Char}
    (one : p → ∀ c ∈ first, layout.Allows c) (other : ¬ p → ∀ c ∈ second, layout.Allows c) :
    ∀ c ∈ if p then first else second, layout.Allows c :=
  iteInduction (motive := fun text => ∀ c ∈ text, layout.Allows c) one other

theorem allows_lineBreak {c : Char} (member : c ∈ layout.lineBreak depth) : layout.Allows c := by
  cases layout with
  | line => contradiction
  | indented width =>
      rcases List.mem_cons.mp member with rfl | member
      · exact .inr ⟨rfl, nofun⟩
      · rw [List.eq_of_mem_replicate member]
        exact .inl (by decide)

theorem allows_separator {c : Char} (member : c ∈ layout.separator depth) : layout.Allows c := by
  cases layout with
  | line => exact allows_word [',', ' '] (by decide) c member
  | indented width =>
      rcases List.mem_cons.mp member with rfl | member
      · exact .inl (by decide)
      · exact allows_lineBreak member

theorem allows_intercalate {parts : List (List Char)}
    (allowed : ∀ part ∈ parts, ∀ c ∈ part, layout.Allows c) :
    ∀ c ∈ List.intercalate (layout.separator depth) parts, layout.Allows c := by
  induction parts with
  | nil => exact List.forall_mem_nil _
  | cons part more induction =>
      obtain ⟨here, later⟩ := List.forall_mem_cons.mp allowed
      cases more with
      | nil =>
          rw [List.intercalate_singleton]
          exact here
      | cons next more =>
          rw [List.intercalate_cons_cons]
          intro c member
          rcases List.mem_append.mp member with member | member
          · rcases List.mem_append.mp member with member | member
            · exact here c member
            · exact allows_separator member
          · exact induction later c member

theorem allows_enclose {opening closing : Char} {parts : List (List Char)}
    (opens : layout.Allows opening) (closes : layout.Allows closing)
    (allowed : ∀ part ∈ parts, ∀ c ∈ part, layout.Allows c) :
    ∀ c ∈ layout.enclose depth opening closing parts, layout.Allows c := by
  rw [enclose]
  split
  · exact List.forall_mem_cons.mpr ⟨opens, List.forall_mem_singleton.mpr closes⟩
  · have before : ∀ c ∈ layout.lineBreak (depth + 1), layout.Allows c := fun c => allows_lineBreak
    have after : ∀ c ∈ layout.lineBreak depth, layout.Allows c := fun c => allows_lineBreak
    have inside : ∀ c ∈ List.intercalate (layout.separator (depth + 1)) parts, layout.Allows c :=
      allows_intercalate allowed
    simp only [List.forall_mem_append, List.forall_mem_cons]
    exact ⟨⟨⟨⟨opens, before⟩, inside⟩, after⟩, closes, List.forall_mem_nil _⟩

end Layout

variable {layout : Layout}

theorem allows_digitChar {n : Nat} (small : n < 16) : layout.Allows (Nat.digitChar n) := by
  refine .inl ?_
  revert n
  decide

theorem allows_escapeUnit {n : Nat} (small : n < 0x10000) :
    ∀ c ∈ escapeUnit n, layout.Allows c := by
  rw [escapeUnit, Text.paddedHex_four small]
  simp only [List.forall_mem_cons]
  refine ⟨.inl (by decide), .inl (by decide), ?_, ?_, ?_, ?_, List.forall_mem_nil _⟩ <;>
    exact allows_digitChar (by omega)

theorem allows_escapeChar (c : Char) : ∀ d ∈ escapeChar c, layout.Allows d := by
  have bounded := toNat_lt c
  rw [escapeChar]
  refine Layout.allows_ite (fun quote => Layout.allows_word ['\\', '"'] (by decide)) fun _ => ?_
  refine Layout.allows_ite (fun slash => Layout.allows_word ['\\', '\\'] (by decide)) fun _ => ?_
  refine Layout.allows_ite (fun newline => Layout.allows_word ['\\', 'n'] (by decide)) fun _ => ?_
  refine Layout.allows_ite (fun carriage => Layout.allows_word ['\\', 'r'] (by decide)) fun _ => ?_
  refine Layout.allows_ite (fun tab => Layout.allows_word ['\\', 't'] (by decide)) fun _ => ?_
  refine Layout.allows_ite (fun feed => Layout.allows_word ['\\', 'f'] (by decide)) fun _ => ?_
  refine Layout.allows_ite (fun back => Layout.allows_word ['\\', 'b'] (by decide)) fun _ => ?_
  refine Layout.allows_ite (fun printed => List.forall_mem_singleton.mpr (.inl (by omega))) fun _ => ?_
  refine Layout.allows_ite (fun small => allows_escapeUnit small) fun _ => ?_
  exact List.forall_mem_append.mpr ⟨allows_escapeUnit (by omega), allows_escapeUnit (by omega)⟩

theorem allows_writeString (s : String) : ∀ c ∈ writeString s, layout.Allows c := by
  rw [writeString]
  refine List.forall_mem_cons.mpr ⟨.inl (by decide), List.forall_mem_append.mpr ⟨?_, ?_⟩⟩
  · intro d member
    obtain ⟨c, -, member⟩ := List.mem_flatMap.mp member
    exact allows_escapeChar c d member
  · exact List.forall_mem_singleton.mpr (.inl (by decide))

theorem allows_toString_int (n : Int) : ∀ c ∈ (toString n).toList, layout.Allows c := by
  have digits : ∀ c ∈ Nat.toDigits 10 n.natAbs, layout.Allows c := by
    intro c member
    have digit : 48 ≤ c.toNat ∧ c.toNat ≤ 57 :=
      Char.isDigit_iff_toNat.mp (Nat.isDigit_of_mem_toDigits (by decide) (by decide) member)
    exact .inl (by omega)
  rw [toList_toString_int]
  split
  · exact List.forall_mem_cons.mpr ⟨.inl (by decide), digits⟩
  · exact digits

/-- Texts in which only allowed characters stand, at every depth. -/
def Printed (v : Value) : Prop :=
  ∀ (layout : Layout) (depth : Nat), ∀ c ∈ write layout depth v, layout.Allows c

theorem Printed.list {items : List Value} (printed : ∀ item ∈ items, Printed item) :
    Printed (.list items) := by
  intro layout depth
  rw [write]
  refine Layout.allows_enclose (.inl (by decide)) (.inl (by decide)) ?_
  induction items with
  | nil => exact List.forall_mem_nil _
  | cons item more induction =>
      obtain ⟨here, later⟩ := List.forall_mem_cons.mp printed
      exact List.forall_mem_cons.mpr ⟨here layout (depth + 1), induction later⟩

theorem Printed.map {fields : List (String × Value)} (printed : ∀ field ∈ fields, Printed field.2) :
    Printed (.map (Mapping.ofFields fields)) := by
  intro layout depth
  rw [write]
  refine Layout.allows_enclose (.inl (by decide)) (.inl (by decide)) ?_
  induction fields with
  | nil => exact List.forall_mem_nil _
  | cons field more induction =>
      obtain ⟨here, later⟩ := List.forall_mem_cons.mp printed
      refine List.forall_mem_cons.mpr ⟨?_, induction later⟩
      refine List.forall_mem_append.mpr ⟨?_, List.forall_mem_cons.mpr ⟨.inl (by decide),
        List.forall_mem_cons.mpr ⟨.inl (by decide), here layout (depth + 1)⟩⟩⟩
      rw [write]
      exact allows_writeString field.1

theorem Plain.printed {v : Value} (plain : Plain v) : Printed v := by
  induction plain with
  | null => exact fun layout depth => Layout.allows_word ['n', 'u', 'l', 'l'] (by decide)
  | bool b =>
      cases b with
      | true => exact fun layout depth => Layout.allows_word ['t', 'r', 'u', 'e'] (by decide)
      | false => exact fun layout depth => Layout.allows_word ['f', 'a', 'l', 's', 'e'] (by decide)
  | @int n short => exact fun layout depth => allows_toString_int n
  | string s => exact fun layout depth => allows_writeString s
  | list plain induction => exact .list induction
  | map distinct plain induction => exact .map induction

/-! Text that begins with a bracket. It reads as a list if it reads at all. -/

theorem items?_isList {fuel : Nat} {read : List Value} {cs rest : List Char} {v : Value}
    (found : items? fuel read cs = some (v, rest)) : ∃ items, v = .list items := by
  induction fuel generalizing read cs with
  | zero => contradiction
  | succ fuel induction =>
      rw [items?] at found
      split at found
      · contradiction
      · split at found
        · exact induction found
        · obtain ⟨rfl, -⟩ := Prod.mk.inj (Option.some.inj found)
          exact ⟨_, rfl⟩
        · contradiction

theorem value?_bracket {fuel : Nat} {cs rest : List Char} {v : Value}
    (found : value? fuel ('[' :: cs) = some (v, rest)) : ∃ items, v = .list items := by
  cases fuel with
  | zero => contradiction
  | succ fuel =>
      rw [value?] at found
      split at found
      · obtain ⟨rfl, -⟩ := Prod.mk.inj (Option.some.inj found)
        exact ⟨[], rfl⟩
      · exact items?_isList found

theorem read?_bracket {cs : List Char} {v : Value}
    (found : read? (String.ofList ('[' :: cs)) = some v) : ∃ items, v = .list items := by
  have bracket : skipSpace ('[' :: cs) = '[' :: cs := skipSpace_cons (by decide) cs
  rw [read?, String.toList_ofList, bracket] at found
  split at found
  · next value rest read =>
      split at found
      · obtain rfl := Option.some.inj found
        exact value?_bracket read
      · contradiction
  · contradiction

end WalCheckpoint.Json
