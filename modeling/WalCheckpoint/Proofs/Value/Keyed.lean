import WalCheckpoint.Proofs.Value.SameKey

namespace WalCheckpoint.Keyed

/-! What is kept under keys: what one more entry changes, and what the entries of another list do
that is laid over it. -/

variable {m lower upper : Keyed α} {key other : Value} {value : α}

def keys (m : Keyed α) : List Value :=
  m.map Prod.fst

/-- Every key is one, and no two of them are the same. -/
structure Distinct (m : Keyed α) : Prop where
  hashable : ∀ key ∈ keys m, key.sameKey key = true
  apart : (keys m).Pairwise fun key other => key.sameKey other = false

instance (m : Keyed α) : Decidable (Distinct m) :=
  decidable_of_iff ((∀ key ∈ keys m, key.sameKey key = true) ∧
      (keys m).Pairwise fun key other => key.sameKey other = false)
    ⟨fun ⟨hashable, apart⟩ => ⟨hashable, apart⟩, fun distinct => ⟨distinct.hashable, distinct.apart⟩⟩

theorem distinct_nil : Distinct ([] : Keyed α) :=
  ⟨nofun, .nil⟩

theorem distinct_cons_iff {rest : Keyed α} :
    Distinct ((key, value) :: rest) ↔
      key.sameKey key = true ∧ (∀ other ∈ keys rest, key.sameKey other = false) ∧ Distinct rest := by
  constructor
  · rintro ⟨hashable, apart⟩
    obtain ⟨here, later⟩ := List.forall_mem_cons.mp hashable
    obtain ⟨away, apart⟩ := List.pairwise_cons.mp apart
    exact ⟨here, away, later, apart⟩
  · rintro ⟨here, away, later, apart⟩
    exact ⟨List.forall_mem_cons.mpr ⟨here, later⟩, List.pairwise_cons.mpr ⟨away, apart⟩⟩

@[simp] theorem get?_nil (key : Value) : get? ([] : Keyed α) key = none := rfl

theorem get?_entry (key : Value) (value : α) (rest : Keyed α) (other : Value) :
    get? ((key, value) :: rest) other =
      if key.sameKey other then some value else get? rest other := by
  rw [get?, List.find?_cons]
  cases key.sameKey other <;> rfl

theorem get?_congr (same : key.sameKey other = true) (m : Keyed α) :
    get? m key = get? m other := by
  have tests : (fun entry : Value × α => entry.1.sameKey key) =
      fun entry => entry.1.sameKey other := by
    funext entry
    rw [Value.sameKey_comm, Value.sameKey_congr same, Value.sameKey_comm]
  rw [get?, get?, tests]

theorem get?_eq_none (away : ∀ held ∈ keys m, held.sameKey other = false) :
    get? m other = none := by
  rw [get?, Option.map_eq_none_iff, List.find?_eq_none]
  intro entry member
  rw [away entry.1 (List.mem_map_of_mem member)]
  exact Bool.false_ne_true

theorem get?_map (f : Value → α → β) (m : Keyed α) (key : Value) :
    get? (m.map fun entry => (entry.1, f entry.1 entry.2)) key =
      (m.find? fun entry => entry.1.sameKey key).map fun entry => f entry.1 entry.2 := by
  rw [get?, List.find?_map, Option.map_map]
  rfl

theorem mem_of_get? (found : get? m key = some value) :
    ∃ held, (held, value) ∈ m ∧ held.sameKey key = true := by
  obtain ⟨⟨held, value'⟩, first, rfl⟩ := Option.map_eq_some_iff.mp found
  have tests := List.find?_some first
  exact ⟨held, List.mem_of_find?_eq_some first, tests⟩

theorem Distinct.get?_of_mem (distinct : Distinct m) (member : (key, value) ∈ m) :
    get? m key = some value := by
  induction m with
  | nil => contradiction
  | cons entry rest induction =>
      obtain ⟨held, value'⟩ := entry
      obtain ⟨here, away, later⟩ := distinct_cons_iff.mp distinct
      rw [get?_entry]
      obtain same | member := List.mem_cons.mp member
      · obtain ⟨rfl, rfl⟩ := Prod.mk.inj same
        rw [if_pos here]
      · rw [away key (List.mem_map_of_mem member)]
        exact induction later member

theorem Distinct.get?_eq_some_iff (distinct : Distinct m) :
    get? m key = some value ↔ ∃ held, (held, value) ∈ m ∧ held.sameKey key = true :=
  ⟨mem_of_get?, fun ⟨_, member, same⟩ =>
    (get?_congr same m).symm.trans (distinct.get?_of_mem member)⟩

theorem Distinct.sublist {m' : Keyed α} (distinct : Distinct m) (within : m'.Sublist m) :
    Distinct m' := by
  have keysWithin : (keys m').Sublist (keys m) := within.map Prod.fst
  exact ⟨fun key member => distinct.hashable key (keysWithin.subset member),
    distinct.apart.sublist keysWithin⟩

theorem Distinct.perm {m' : Keyed α} (distinct : Distinct m) (perm : m.Perm m') : Distinct m' := by
  have keysPerm : (keys m).Perm (keys m') := perm.map Prod.fst
  refine ⟨fun key member => distinct.hashable key (keysPerm.mem_iff.mpr member),
    distinct.apart.perm keysPerm fun apart => ?_⟩
  rwa [Value.sameKey_comm]

/-- The order of the entries does not matter. -/
theorem Distinct.get?_perm {m' : Keyed α} (distinct : Distinct m) (perm : m.Perm m') (key : Value) :
    get? m key = get? m' key := by
  ext value
  simp only [distinct.get?_eq_some_iff, (distinct.perm perm).get?_eq_some_iff, perm.mem_iff]

/-- Lists with the same keys in the same order hold the same where they hold the same under every
key. -/
theorem Distinct.ext {m' : Keyed α} (distinct : Distinct m) (same : keys m = keys m')
    (holds : ∀ key, get? m key = get? m' key) : m = m' := by
  induction m generalizing m' with
  | nil => exact (List.map_eq_nil_iff.mp same.symm).symm
  | cons entry rest induction =>
      obtain ⟨key, value⟩ := entry
      obtain ⟨here, away, later⟩ := distinct_cons_iff.mp distinct
      cases m' with
      | nil => contradiction
      | cons entry' rest' =>
          obtain ⟨key', value'⟩ := entry'
          obtain ⟨keySame, restSame⟩ := List.cons.inj same
          obtain rfl : key = key' := keySame
          have first := holds key
          rw [get?_entry, get?_entry, if_pos here, if_pos here] at first
          obtain rfl := Option.some.inj first
          rw [induction later restSame fun other => ?_]
          cases covered : key.sameKey other with
          | true =>
              have restAway : ∀ held ∈ keys rest', key.sameKey held = false := by
                rwa [keys, ← restSame]
              have none {rest : Keyed α} (away : ∀ held ∈ keys rest, key.sameKey held = false) :
                  get? rest other = none :=
                get?_eq_none fun held member => by
                  rw [Value.sameKey_comm, ← Value.sameKey_congr covered]
                  exact away held member
              rw [none away, none restAway]
          | false =>
              have later := holds other
              rwa [get?_entry, get?_entry, covered] at later

/-! One more entry. -/

def addKey (key : Value) : List Value → List Value
  | [] => [key]
  | held :: rest => if held.sameKey key then held :: rest else held :: addKey key rest

theorem keys_insert (key : Value) (value : α) (m : Keyed α) :
    keys (insert key value m) = addKey key (keys m) := by
  induction m with
  | nil => rfl
  | cons entry rest induction =>
      obtain ⟨held, value'⟩ := entry
      show keys (insert key value ((held, value') :: rest)) =
        if held.sameKey key then held :: keys rest else held :: addKey key (keys rest)
      rw [insert, ← induction]
      split <;> rfl

theorem get?_put (m : Keyed α) (key : Value) (value : α) (other : Value) :
    get? (insert key value m) other = if key.sameKey other then some value else get? m other := by
  induction m with
  | nil => rw [insert, get?_entry]
  | cons entry rest induction =>
      obtain ⟨held, value'⟩ := entry
      rw [insert]
      cases same : held.sameKey key with
      | true =>
          rw [if_pos rfl, get?_entry, get?_entry, Value.sameKey_congr same]
          split <;> rfl
      | false =>
          rw [if_neg Bool.false_ne_true, get?_entry, get?_entry, induction]
          cases here : held.sameKey other with
          | true =>
              have away : key.sameKey other = false := by
                rw [Value.sameKey_comm, ← Value.sameKey_congr here, same]
              rw [away]
              rfl
          | false => rfl

theorem mem_addKey {held : Value} {keys : List Value} (member : held ∈ addKey key keys) :
    held = key ∨ held ∈ keys := by
  induction keys with
  | nil => exact .inl (List.mem_singleton.mp member)
  | cons first rest induction =>
      rw [addKey] at member
      split at member
      · exact .inr member
      · obtain rfl | member := List.mem_cons.mp member
        · exact .inr List.mem_cons_self
        · exact (induction member).imp_right (List.mem_cons_of_mem first)

theorem pairwise_addKey {keys : List Value}
    (apart : keys.Pairwise fun key other => key.sameKey other = false) :
    (addKey key keys).Pairwise fun key other => key.sameKey other = false := by
  induction keys with
  | nil => exact List.pairwise_singleton _ _
  | cons first rest induction =>
      obtain ⟨away, later⟩ := List.pairwise_cons.mp apart
      rw [addKey]
      split
      · exact apart
      · next other =>
          refine List.pairwise_cons.mpr ⟨fun held member => ?_, induction later⟩
          obtain rfl | member := mem_addKey member
          · exact eq_false_of_ne_true other
          · exact away held member

theorem Distinct.insert (distinct : Distinct m) (hashable : key.sameKey key = true) (value : α) :
    Distinct (insert key value m) := by
  obtain ⟨allHashable, apart⟩ := distinct
  constructor <;> rw [keys_insert]
  · intro held member
    obtain rfl | member := mem_addKey member
    · exact hashable
    · exact allHashable held member
  · exact pairwise_addKey apart

/-- What is already there is put in without a change. -/
theorem insert_of_get? (found : get? m key = some value) : insert key value m = m := by
  induction m with
  | nil => contradiction
  | cons entry rest induction =>
      obtain ⟨held, value'⟩ := entry
      rw [get?_entry] at found
      rw [insert]
      split at found
      · next same => rw [if_pos same, Option.some.inj found]
      · next other => rw [if_neg other, induction found]

/-- A key that is not there is put in last. -/
theorem insert_of_get?_none (absent : get? m key = none) : insert key value m = m ++ [(key, value)] := by
  induction m with
  | nil => rfl
  | cons entry rest induction =>
      obtain ⟨held, value'⟩ := entry
      rw [get?_entry] at absent
      rw [insert]
      split at absent
      · contradiction
      · next other => rw [if_neg other, induction absent, List.cons_append]

/-! One entry less. -/

def erase (key : Value) (m : Keyed α) : Keyed α :=
  m.filter fun entry => !entry.1.sameKey key

theorem get?_erase (away : key.sameKey other = false) (m : Keyed α) :
    get? (erase key m) other = get? m other := by
  induction m with
  | nil => rfl
  | cons entry rest induction =>
      obtain ⟨held, value⟩ := entry
      rw [erase] at induction ⊢
      rw [List.filter_cons, get?_entry]
      cases same : held.sameKey key with
      | true =>
          have heldAway : held.sameKey other = false := by rw [Value.sameKey_congr same, away]
          rw [heldAway]
          exact induction
      | false =>
          rw [if_pos Bool.not_false, get?_entry, induction]

/-! A list laid over another. -/

/-- Puts in what the upper list holds, each value over the one that is there. -/
def lay (upon : Option α → α → α) (lower : Keyed α) : Keyed α → Keyed α
  | [] => lower
  | (key, value) :: rest => lay upon (insert key (upon (get? lower key) value) lower) rest

theorem keys_lay (upon : Option α → α → α) (lower upper : Keyed α) :
    keys (lay upon lower upper) = (keys upper).foldl (fun keys key => addKey key keys) (keys lower) := by
  induction upper generalizing lower with
  | nil => rfl
  | cons entry rest induction => rw [lay, induction, keys_insert]; rfl

theorem get?_lay (upon : Option α → α → α) (lower : Keyed α) (distinct : Distinct upper)
    (key : Value) :
    get? (lay upon lower upper) key =
      (get? upper key).elim (get? lower key) fun value => some (upon (get? lower key) value) := by
  induction upper generalizing lower with
  | nil => rfl
  | cons entry rest induction =>
      obtain ⟨held, value⟩ := entry
      obtain ⟨-, away, later⟩ := distinct_cons_iff.mp distinct
      rw [lay, induction _ later, get?_put, get?_entry]
      cases same : held.sameKey key with
      | true =>
          have absent : get? rest key = none := get?_eq_none fun other member => by
            rw [Value.sameKey_comm, ← Value.sameKey_congr same]
            exact away other member
          rw [absent, if_pos rfl, if_pos rfl, get?_congr same]
          rfl
      | false => rfl

/-- Where nothing is below, what is laid follows what is there. -/
theorem lay_of_absent (upon : Option α → α → α) (distinct : Distinct upper)
    (absent : ∀ key ∈ keys upper, get? lower key = none) :
    lay upon lower upper = lower ++ upper.map fun entry => (entry.1, upon none entry.2) := by
  induction upper generalizing lower with
  | nil => exact (List.append_nil lower).symm
  | cons entry rest induction =>
      obtain ⟨key, value⟩ := entry
      obtain ⟨-, away, later⟩ := distinct_cons_iff.mp distinct
      obtain ⟨here, absent⟩ := List.forall_mem_cons.mp absent
      have none : get? lower key = none := here
      rw [lay, none, insert_of_get?_none none, induction later, List.append_assoc]
      · rfl
      · intro other member
        rw [← insert_of_get?_none none, get?_put, away other member]
        exact absent other member

theorem Distinct.lay (upon : Option α → α → α) (distinct : Distinct lower)
    (hashable : ∀ key ∈ keys upper, key.sameKey key = true) :
    Distinct (lay upon lower upper) := by
  induction upper generalizing lower with
  | nil => exact distinct
  | cons entry rest induction =>
      obtain ⟨here, later⟩ := List.forall_mem_cons.mp hashable
      exact induction (distinct.insert here _) later

end WalCheckpoint.Keyed
