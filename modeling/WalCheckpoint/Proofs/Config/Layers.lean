import Mathlib.Data.List.Induction
import WalCheckpoint.Config.Layers
import WalCheckpoint.Proofs.Value.Path

namespace WalCheckpoint.Config

/-! What sections hold at the places below others, whose section is reached at a place, and how
merging changes it. -/

namespace Layers

open Value (WellKeyed)

def slots (owner : Nat) : Layers → Section
  | ⟨sections, _⟩ => sectionOf sections owner

def belowAt (key : Value) : List (Value × Layers) → Layers
  | [] => empty
  | (key', layers) :: rest => if key'.sameKey key then layers else belowAt key rest

def under (key : Value) : Layers → Layers
  | ⟨_, below⟩ => belowAt key below

def place : List Value → Layers → Layers
  | [], layers => layers
  | key :: path, layers => place path (layers.under key)

/-- What the section of an owner holds at a place. -/
def held (path : List Value) (owner : Nat) (layers : Layers) : Section :=
  (layers.place path).slots owner

/-- Whose section a path leads to from the section of an owner. -/
def ownerAt : List Value → Nat → Layers → Option Nat
  | [], owner, _ => some owner
  | key :: path, owner, layers =>
      match Keyed.get? (layers.slots owner) key with
      | some (.nested owner) => ownerAt path owner (layers.under key)
      | _ => none

variable {layers : Layers} {owner target upper : Nat} {key : Value} {path : List Value}

@[simp] theorem held_nil (owner : Nat) (layers : Layers) : layers.held [] owner = layers.slots owner :=
  rfl

@[simp] theorem held_cons (key : Value) (path : List Value) (owner : Nat) (layers : Layers) :
    layers.held (key :: path) owner = (layers.under key).held path owner := rfl

@[simp] theorem ownerAt_nil (owner : Nat) (layers : Layers) :
    layers.ownerAt [] owner = some owner := by
  rw [ownerAt]

theorem ownerAt_cons_of_nested {inner : Nat}
    (nested : Keyed.get? (layers.slots owner) key = some (.nested inner)) (path : List Value) :
    layers.ownerAt (key :: path) owner = (layers.under key).ownerAt path inner := by
  rw [ownerAt, nested]

theorem ownerAt_cons_eq_some {reached : Nat}
    (reaches : layers.ownerAt (key :: path) owner = some reached) :
    ∃ inner, Keyed.get? (layers.slots owner) key = some (.nested inner) ∧
      (layers.under key).ownerAt path inner = some reached := by
  rw [ownerAt] at reaches
  split at reaches
  · next inner nested => exact ⟨inner, nested, reaches⟩
  · contradiction

@[simp] theorem slots_empty (owner : Nat) : empty.slots owner = [] := rfl

@[simp] theorem under_empty (key : Value) : empty.under key = empty := rfl

theorem held_empty (path : List Value) (owner : Nat) : empty.held path owner = [] := by
  induction path with
  | nil => rfl
  | cons key path induction => exact induction

theorem under_congr {other : Value} (same : key.sameKey other = true) (layers : Layers) :
    layers.under key = layers.under other := by
  obtain ⟨sections, below⟩ := layers
  show belowAt key below = belowAt other below
  induction below with
  | nil => rfl
  | cons entry rest induction =>
      rw [belowAt, belowAt, induction, Value.sameKey_comm, Value.sameKey_congr same,
        Value.sameKey_comm]

theorem belowAt_eq_empty_or_lt (key : Value) (below : List (Value × Layers)) :
    belowAt key below = empty ∨ sizeOf (belowAt key below) < sizeOf below := by
  induction below with
  | nil => exact .inl rfl
  | cons entry rest induction =>
      obtain ⟨key', layers⟩ := entry
      rw [belowAt, List.cons.sizeOf_spec, Prod.mk.sizeOf_spec]
      split
      · exact .inr (by omega)
      · exact induction.imp_right fun less => by omega

theorem under_eq_empty_or_lt (key : Value) (layers : Layers) :
    layers.under key = empty ∨ sizeOf (layers.under key) < sizeOf layers := by
  obtain ⟨sections, below⟩ := layers
  refine (belowAt_eq_empty_or_lt key below).imp_right fun less => ?_
  rw [mk.sizeOf_spec]
  exact Nat.lt_of_lt_of_le less (by omega)

theorem sectionOf_cons (owner : Nat) (held : Section) (rest : List (Nat × Section)) (other : Nat) :
    sectionOf ((owner, held) :: rest) other = if owner = other then held else sectionOf rest other := by
  rw [sectionOf, List.find?_cons, sectionOf]
  by_cases same : owner = other
  · rw [if_pos same, beq_iff_eq.mpr same]
    rfl
  · rw [if_neg same, beq_false_of_ne same]

theorem sectionOf_setSection (owner : Nat) (held : Section) (sections : List (Nat × Section))
    (other : Nat) :
    sectionOf (setSection owner held sections) other =
      if owner = other then held else sectionOf sections other := by
  induction sections with
  | nil => exact sectionOf_cons owner held [] other
  | cons entry rest induction =>
      obtain ⟨owner', held'⟩ := entry
      rw [setSection]
      split
      · next same =>
          rw [sectionOf_cons, sectionOf_cons, same]
          split <;> rfl
      · next apart =>
          rw [sectionOf_cons, sectionOf_cons, induction]
          by_cases here : owner' = other
          · rw [if_pos here, if_pos here, if_neg fun same => apart (here.trans same.symm)]
          · rw [if_neg here, if_neg here]

/-! Configurations that are brought in. -/

def slotOf (owner : Nat) : Value → Slot
  | .map _ => .nested owner
  | value => .leaf value

/-- What a section holds that was brought in from a mapping. -/
def contents (owner : Nat) : Option Value → Section
  | some (.map entries) => entries.map fun entry => (entry.1, slotOf owner entry.2)
  | _ => []

theorem contents_of_not_map {v : Value} (other : v.isMap = false) (owner : Nat)
    (path : List Value) : contents owner (v.at? path) = [] := by
  cases path with
  | nil => cases v <;> first | contradiction | rfl
  | cons key path => rw [Value.at?_cons_of_not_map other]; rfl

theorem slots_fill (owner : Nat) (key : Value) (slot : Slot) (layers : Layers) (other : Nat) :
    (layers.fill owner key slot).slots other =
      if owner = other then Keyed.insert key slot (layers.slots owner) else layers.slots other := by
  obtain ⟨sections, below⟩ := layers
  exact sectionOf_setSection owner _ sections other

theorem under_fill (owner : Nat) (key : Value) (slot : Slot) (layers : Layers) (other : Value) :
    (layers.fill owner key slot).under other = layers.under other := by
  obtain ⟨sections, below⟩ := layers
  rfl

theorem slots_descend (key : Value) (f : Layers → Layers) (layers : Layers) (owner : Nat) :
    (layers.descend key f).slots owner = layers.slots owner := by
  obtain ⟨sections, below⟩ := layers
  rfl

theorem under_descend (key : Value) (f : Layers → Layers) (layers : Layers) (other : Value) :
    (layers.descend key f).under other =
      if key.sameKey other then f (layers.under other) else layers.under other := by
  obtain ⟨sections, below⟩ := layers
  show belowAt other (modifyBelow key f below) =
    if key.sameKey other then f (belowAt other below) else belowAt other below
  induction below with
  | nil => rfl
  | cons entry rest induction =>
      obtain ⟨key', inner⟩ := entry
      rw [modifyBelow]
      cases same : key'.sameKey key with
      | true =>
          rw [if_pos rfl, belowAt, belowAt, Value.sameKey_congr same]
          split <;> rfl
      | false =>
          rw [if_neg Bool.false_ne_true, belowAt, belowAt, induction]
          cases here : key'.sameKey other with
          | true =>
              have away : key.sameKey other = false := by
                rw [Value.sameKey_comm, ← Value.sameKey_congr here, same]
              rw [away]
              rfl
          | false => rfl

theorem slots_addValue (owner : Nat) (key value : Value) (layers : Layers) (other : Nat) :
    (addValue owner key value layers).slots other =
      if owner = other then Keyed.insert key (slotOf owner value) (layers.slots owner)
      else layers.slots other := by
  cases value <;> first | exact slots_fill .. | skip
  next entries => exact (slots_descend ..).trans (slots_fill ..)

theorem under_addValue (owner : Nat) (key value : Value) (layers : Layers) (other : Value) :
    (addValue owner key value layers).under other =
      match value with
      | .map entries =>
          if key.sameKey other then add owner entries (layers.under other) else layers.under other
      | _ => layers.under other := by
  cases value <;> first | exact under_fill .. | skip
  next entries => exact (under_descend ..).trans (by rw [under_fill])

theorem slots_add (owner : Nat) (entries : Mapping) (layers : Layers) (other : Nat) :
    (add owner entries layers).slots other =
      if owner = other then
        Keyed.lay (fun _ slot => slot) (layers.slots owner) (contents owner (some (.map entries)))
      else layers.slots other := by
  induction entries generalizing layers with
  | nil =>
      show layers.slots other = if owner = other then layers.slots owner else layers.slots other
      split
      · next same => rw [same]
      · rfl
  | cons entry rest induction =>
      obtain ⟨key, value⟩ := entry
      rw [add, induction, slots_addValue, slots_addValue, if_pos rfl]
      split <;> rfl

theorem under_add {entries : Mapping} (distinct : Keyed.Distinct entries) (owner : Nat)
    (layers : Layers) (key : Value) :
    (add owner entries layers).under key =
      match Keyed.get? entries key with
      | some (.map inner) => add owner inner (layers.under key)
      | _ => layers.under key := by
  induction entries generalizing layers with
  | nil => rfl
  | cons entry rest induction =>
      obtain ⟨key', value⟩ := entry
      obtain ⟨-, away, later⟩ := Keyed.distinct_cons_iff.mp distinct
      rw [add, induction later, Keyed.get?_entry, under_addValue]
      cases same : key'.sameKey key with
      | true =>
          have absent : Keyed.get? rest key = none := Keyed.get?_eq_none fun other member => by
            rw [Value.sameKey_comm, ← Value.sameKey_congr same]
            exact away other member
          rw [absent]
          cases value <;> rfl
      | false => cases value <;> rfl

theorem keys_contents (owner : Nat) (entries : Mapping) :
    Keyed.keys (contents owner (some (.map entries))) = Keyed.keys entries := by
  rw [contents, Keyed.keys, Keyed.keys, List.map_map]
  rfl

theorem distinct_contents {entries : Mapping} (distinct : Keyed.Distinct entries) (owner : Nat) :
    Keyed.Distinct (contents owner (some (.map entries))) := by
  obtain ⟨hashable, apart⟩ := distinct
  rw [← keys_contents owner entries] at hashable apart
  exact ⟨hashable, apart⟩

theorem get?_contents (owner : Nat) (entries : Mapping) (key : Value) :
    Keyed.get? (contents owner (some (.map entries))) key =
      (Keyed.get? entries key).map (slotOf owner) := by
  rw [contents, Keyed.get?_map fun _ => slotOf owner, Keyed.get?, Option.map_map]
  rfl

/-- A configuration is brought in with all its sections, and nothing else changes. -/
theorem held_add {entries : Mapping} (keyed : (Value.map entries).WellKeyed) (owner : Nat)
    (layers : Layers) (fresh : ∀ path, layers.held path owner = []) (path : List Value)
    (other : Nat) :
    (add owner entries layers).held path other =
      if owner = other then contents owner ((Value.map entries).at? path)
      else layers.held path other := by
  induction path generalizing entries layers with
  | nil =>
      rw [held_nil, slots_add]
      split
      · next same =>
          rw [show layers.slots owner = [] from fresh [],
            Keyed.lay_of_absent _ (distinct_contents keyed.distinct owner) fun _ _ => rfl]
          exact List.map_id _
      · rfl
  | cons key path induction =>
      rw [held_cons, under_add keyed.distinct, Value.at?_map_cons]
      cases held : Keyed.get? entries key with
      | none =>
          show (layers.under key).held path other = _
          split
          · next same => exact same ▸ fresh (key :: path)
          · rfl
      | some value =>
          cases isMap : value.isMap with
          | true =>
              obtain ⟨inner, rfl⟩ := Value.eq_map_of_isMap isMap
              exact induction (keyed.within held) _ fun path => fresh (key :: path)
          | false =>
              have unchanged : (match some value with
                  | some (.map inner) => add owner inner (layers.under key)
                  | _ => layers.under key) = layers.under key := by
                cases value <;> first | contradiction | rfl
              rw [unchanged, Option.bind_some, contents_of_not_map isMap]
              split
              · next same => exact same ▸ fresh (key :: path)
              · rfl

theorem ofConfigs_append (configs : List Value) (config : Value) :
    ofConfigs (configs ++ [config]) = add configs.length (entries config) (ofConfigs configs) := by
  rw [ofConfigs, List.zipIdx_append, List.foldl_append, Nat.zero_add]
  rfl

theorem entries_of_not_map {v : Value} (other : v.isMap = false) : entries v = [] := by
  cases v <;> first | contradiction | rfl

theorem wellKeyed_entries {v : Value} (keyed : v.WellKeyed) : (Value.map (entries v)).WellKeyed := by
  cases isMap : v.isMap with
  | true =>
      obtain ⟨inner, rfl⟩ := Value.eq_map_of_isMap isMap
      exact keyed
  | false =>
      rw [entries_of_not_map isMap]
      exact .map Keyed.distinct_nil (List.forall_mem_nil _)

/-- Configurations are brought in side by side, each with sections of its own. -/
theorem held_ofConfigs {configs : List Value}
    (keyed : ∀ config ∈ configs, config.WellKeyed) (path : List Value) (owner : Nat) :
    (ofConfigs configs).held path owner =
      contents owner ((configs[owner]?.map fun config => .map (entries config)).bind
        (Value.at? path)) := by
  induction configs using List.reverseRecOn generalizing path owner with
  | nil => exact held_empty path owner
  | append_singleton configs config induction =>
      obtain ⟨earlier, here⟩ := List.forall_mem_append.mp keyed
      have keyed := wellKeyed_entries (here config (List.mem_singleton_self config))
      rw [ofConfigs_append, held_add keyed]
      · split
        · next same => rw [← same, List.getElem?_concat_length]; rfl
        · next apart =>
            rw [induction earlier]
            by_cases known : owner < configs.length
            · rw [List.getElem?_append_left known]
            · rw [List.getElem?_eq_none (by omega), List.getElem?_eq_none]
              rw [List.length_append, List.length_singleton]
              omega
      · intro path
        rw [induction earlier, List.getElem?_eq_none (Nat.le_refl _)]
        rfl

end Layers

end WalCheckpoint.Config
