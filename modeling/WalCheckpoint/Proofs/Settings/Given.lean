import Mathlib.Data.List.Nodup
import WalCheckpoint.Proofs.Value.Overlay
import WalCheckpoint.Settings.Field

namespace WalCheckpoint.Settings

/-! What is given for a setting, in letters of either case, once one mapping is laid over another. -/

/-- Where a name is in a mapping at all, it is there as it is spelled. -/
def Verbatim (m : Mapping) (name : String) : Prop :=
  ∀ entry ∈ m, ∀ spelling, entry.1 = .string spelling → Text.lower spelling = name →
    spelling = name

def within? (m : Mapping) (heading name : String) : Option Value :=
  match given? m heading with
  | some (.map inner) => given? inner name
  | _ => none

variable {m lower : Mapping} {fields : List (String × Value)} {name heading : String}

theorem given?_cons (spelling : String) (value : Value) (rest : Mapping) (name : String) :
    given? ((.string spelling, value) :: rest) name =
      if Text.lower spelling = name then some value else given? rest name := by
  rw [given?, List.find?_cons, given?]
  split
  · next same => rw [if_pos (beq_iff_eq.mp same)]; rfl
  · next other => rw [if_neg (beq_eq_false_iff_ne.mp other)]

theorem given?_insert_of_ne {key : String} (away : Text.lower key ≠ name) (value : Value) :
    given? (Keyed.insert (.string key) value m) name = given? m name := by
  induction m with
  | nil => rw [Keyed.insert, given?_cons, if_neg away]
  | cons entry rest induction =>
      obtain ⟨held, value'⟩ := entry
      rw [Keyed.insert]
      split
      · next same =>
          obtain rfl := Value.sameKey_string_iff.mp same
          rw [given?_cons, given?_cons, if_neg away, if_neg away]
      · rw [given?, List.find?_cons, given?, List.find?_cons]
        split
        · rfl
        · exact induction

theorem given?_eq_field? (verbatim : Verbatim m name) (small : Text.lower name = name) :
    given? m name = m.field? name := by
  induction m with
  | nil => rfl
  | cons entry rest induction =>
      obtain ⟨here, later⟩ := List.forall_mem_cons.mp verbatim
      obtain ⟨key, value⟩ := entry
      rw [Mapping.field?, Keyed.get?_cons]
      cases key with
      | string spelling =>
          rw [given?_cons]
          by_cases same : Text.lower spelling = name
          · rw [if_pos same, if_pos (congrArg Value.string (here spelling rfl same))]
          · have other : Value.string spelling ≠ .string name := by
              rintro ⟨rfl⟩
              exact same small
            rw [if_neg same, if_neg other]
            exact induction later
      | _ =>
          rw [if_neg fun same => Value.noConfusion same]
          exact induction later

theorem verbatim_ofFields (small : ∀ field ∈ fields, Text.lower field.1 = field.1) (name : String) :
    Verbatim (Mapping.ofFields fields) name := by
  intro entry member spelling spelled same
  obtain ⟨field, held, rfl⟩ := List.mem_map.mp member
  obtain rfl := Value.string.inj spelled
  exact (small field held).symm.trans same

theorem Verbatim.overlay (verbatim : Verbatim lower name)
    (small : ∀ field ∈ fields, Text.lower field.1 = field.1) :
    Verbatim (lower.overlay (Mapping.ofFields fields)) name := by
  refine Mapping.forall_key_overlay (P := fun key => ∀ spelling, key = .string spelling →
    Text.lower spelling = name → spelling = name) verbatim fun field member spelling spelled same => ?_
  obtain rfl := Value.string.inj spelled
  exact (small field member).symm.trans same

theorem given?_overlay_of_absent (small : ∀ field ∈ fields, Text.lower field.1 = field.1)
    (absent : fields.lookup name = none) :
    given? (lower.overlay (Mapping.ofFields fields)) name = given? lower name := by
  induction fields generalizing lower with
  | nil => rfl
  | cons field more induction =>
      obtain ⟨key, value⟩ := field
      obtain ⟨here, later⟩ := List.forall_mem_cons.mp small
      rw [lookup_field] at absent
      split at absent
      · contradiction
      · next away =>
          rw [Mapping.overlay_ofFields_cons, induction later absent,
            given?_insert_of_ne (here ▸ Ne.symm away)]

/-- Fields under different names, which are in small letters and begin with none but a letter, with
values of one kind. -/
structure Spelled (holds : Value → Prop) (fields : List (String × Value)) : Prop where
  distinct : (fields.map Prod.fst).Nodup
  small : ∀ field ∈ fields, Text.lower field.1 = field.1
  letter : ∀ field ∈ fields, field.1.toList.head? ≠ some '_'
  held : ∀ field ∈ fields, holds field.2

def TextFields : List (String × Value) → Prop :=
  Spelled fun value => ∃ text, value = .string text

def TextSections : List (String × Value) → Prop :=
  Spelled fun value => ∃ fields, value = .map (Mapping.ofFields fields) ∧ TextFields fields

theorem Spelled.nil {holds : Value → Prop} : Spelled holds [] :=
  ⟨List.nodup_nil, nofun, nofun, nofun⟩

theorem Spelled.single {holds : Value → Prop} {value : Value} (small : Text.lower name = name)
    (letter : name.toList.head? ≠ some '_') (held : holds value) :
    Spelled holds [(name, value)] :=
  ⟨List.nodup_singleton _, List.forall_mem_singleton.mpr small,
    List.forall_mem_singleton.mpr letter, List.forall_mem_singleton.mpr held⟩

theorem Spelled.append {holds : Value → Prop} {more : List (String × Value)}
    (spelled : Spelled holds fields) (spelled' : Spelled holds more)
    (apart : ∀ field ∈ fields, ∀ field' ∈ more, field.1 ≠ field'.1) :
    Spelled holds (fields ++ more) where
  distinct := by
    rw [List.map_append]
    refine spelled.distinct.append spelled'.distinct fun name among among' => ?_
    obtain ⟨field, member, rfl⟩ := List.mem_map.mp among
    obtain ⟨field', member', same⟩ := List.mem_map.mp among'
    exact apart field member field' member' same.symm
  small := List.forall_mem_append.mpr ⟨spelled.small, spelled'.small⟩
  letter := List.forall_mem_append.mpr ⟨spelled.letter, spelled'.letter⟩
  held := List.forall_mem_append.mpr ⟨spelled.held, spelled'.held⟩

theorem given?_ofFields (small : ∀ field ∈ fields, Text.lower field.1 = field.1)
    (spelled : Text.lower name = name) :
    given? (Mapping.ofFields fields) name = fields.lookup name := by
  rw [given?_eq_field? (verbatim_ofFields small name) spelled, Mapping.field?_ofFields]

theorem given?_overlay (distinct : (fields.map Prod.fst).Nodup)
    (small : ∀ field ∈ fields, Text.lower field.1 = field.1) (spelled : Text.lower name = name)
    (verbatim : (fields.lookup name).isSome → Verbatim lower name) :
    given? (lower.overlay (Mapping.ofFields fields)) name =
      (fields.lookup name).elim (given? lower name) fun value =>
        some (Mapping.overlayValue (given? lower name) value) := by
  cases laid : fields.lookup name with
  | none => exact given?_overlay_of_absent small laid
  | some value =>
      have verbatim := verbatim (laid ▸ rfl)
      rw [given?_eq_field? (verbatim.overlay small) spelled, given?_eq_field? verbatim spelled,
        Mapping.field?_overlay distinct, laid, Option.elim_some]

theorem mem_of_lookup {value : Value} (found : fields.lookup name = some value) :
    (name, value) ∈ fields := by
  obtain ⟨before, after, rfl, -⟩ := List.lookup_eq_some_iff.mp found
  exact List.mem_append_right _ List.mem_cons_self

theorem given?_overlay_texts (texts : TextFields fields) (spelled : Text.lower name = name)
    (verbatim : (fields.lookup name).isSome → Verbatim lower name) :
    given? (lower.overlay (Mapping.ofFields fields)) name =
      (fields.lookup name).or (given? lower name) := by
  rw [given?_overlay texts.distinct texts.small spelled verbatim]
  cases laid : fields.lookup name with
  | none => rfl
  | some value =>
      obtain ⟨text, rfl⟩ := texts.held _ (mem_of_lookup laid)
      rfl

/-- Fields of sections that are laid over others count before these. -/
theorem within?_overlay {sections : List (String × Value)} (texts : TextSections sections)
    {heading name : String} (spelledHeading : Text.lower heading = heading)
    (spelled : Text.lower name = name)
    (verbatimHeading : (given? (Mapping.ofFields sections) heading).isSome → Verbatim m heading)
    (verbatim : (within? (Mapping.ofFields sections) heading name).isSome →
      ∀ inner, given? m heading = some (.map inner) → Verbatim inner name) :
    within? (m.overlay (Mapping.ofFields sections)) heading name =
      (within? (Mapping.ofFields sections) heading name).or (within? m heading name) := by
  rw [given?_ofFields texts.small spelledHeading] at verbatimHeading
  simp only [within?, given?_ofFields texts.small spelledHeading] at verbatim ⊢
  rw [given?_overlay texts.distinct texts.small spelledHeading verbatimHeading]
  cases laid : sections.lookup heading with
  | none => rfl
  | some value =>
      obtain ⟨fields, rfl, texts⟩ := texts.held _ (mem_of_lookup laid)
      rw [laid] at verbatim
      simp only [given?_ofFields texts.small spelled] at verbatim ⊢
      cases held : given? m heading with
      | none => exact (given?_ofFields texts.small spelled).trans Option.or_none.symm
      | some value =>
          cases value with
          | map inner => exact given?_overlay_texts texts spelled fun some => verbatim some inner held
          | _ => exact (given?_ofFields texts.small spelled).trans Option.or_none.symm

end WalCheckpoint.Settings
