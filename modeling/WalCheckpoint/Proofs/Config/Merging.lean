import WalCheckpoint.Proofs.Config.Layers

namespace WalCheckpoint.Config.Layers

/-! What merging the section of one owner into that of another changes, at every place below. -/

variable {layers : Layers} {owner target upper : Nat} {key : Value} {path : List Value}

/-- What is under one key once a slot is laid over what is there. -/
def adoptSlot : Option Slot → Slot → Slot
  | some (.nested held), .nested _ => .nested held
  | _, slot => slot

theorem adoptSlot_of_apart {held : Option Slot} {slot : Slot}
    (apart : ∀ owner owner', held = some (.nested owner) → slot = .nested owner' → False) :
    adoptSlot held slot = slot := by
  rw [adoptSlot.eq_def]
  split
  · next owner owner' => exact (apart owner owner' rfl rfl).elim
  · rfl

theorem adopt_eq_lay (held laid : Section) : adopt held laid = Keyed.lay adoptSlot held laid := by
  induction laid generalizing held with
  | nil => rfl
  | cons entry rest induction =>
      obtain ⟨key, slot⟩ := entry
      rw [Keyed.lay, ← induction]
      refine congrArg (fun held => adopt held rest) ?_
      dsimp only
      split
      · next kept _ found =>
          rw [found]
          exact (Keyed.insert_of_get? found).symm
      · next apart => rw [adoptSlot_of_apart apart]

theorem get?_adopt (held : Section) {laid : Section} (distinct : Keyed.Distinct laid) (key : Value) :
    Keyed.get? (adopt held laid) key =
      (Keyed.get? laid key).elim (Keyed.get? held key) fun slot =>
        some (adoptSlot (Keyed.get? held key) slot) := by
  rw [adopt_eq_lay]
  exact Keyed.get?_lay adoptSlot held distinct key

theorem slots_merge (target upper : Nat) (layers : Layers) (owner : Nat) :
    (merge target upper layers).slots owner =
      if target = owner then adopt (layers.slots target) (layers.slots upper)
      else layers.slots owner := by
  obtain ⟨sections, below⟩ := layers
  exact sectionOf_setSection target _ sections owner

/-- What is under a key is merged where both sections hold a section there. -/
def mergeUnder (held laid : Option Slot) (layers : Layers) : Layers :=
  match held, laid with
  | some (.nested target), some (.nested upper) => merge target upper layers
  | _, _ => layers

theorem belowAt_mergeBelow (held laid : Section) (below : List (Value × Layers)) (key : Value) :
    (belowAt key below = empty ∧ belowAt key (mergeBelow held laid below) = empty) ∨
      sizeOf (belowAt key below) < sizeOf below ∧
        belowAt key (mergeBelow held laid below) =
          mergeUnder (Keyed.get? held key) (Keyed.get? laid key) (belowAt key below) := by
  induction below with
  | nil => exact .inl ⟨rfl, rfl⟩
  | cons entry rest induction =>
      obtain ⟨key', inner⟩ := entry
      rw [mergeBelow, belowAt, belowAt, List.cons.sizeOf_spec, Prod.mk.sizeOf_spec]
      cases same : key'.sameKey key with
      | true =>
          rw [if_pos rfl, if_pos rfl, Keyed.get?_congr same, Keyed.get?_congr same]
          exact .inr ⟨by omega, rfl⟩
      | false =>
          rw [if_neg Bool.false_ne_true, if_neg Bool.false_ne_true]
          exact induction.imp_right (And.imp_left fun less => by omega)

/-- Nothing is below a key, before and after, or it is merged there. -/
theorem under_merge (target upper : Nat) (layers : Layers) (key : Value) :
    (layers.under key = empty ∧ (merge target upper layers).under key = empty) ∨
      sizeOf (layers.under key) < sizeOf layers ∧
        (merge target upper layers).under key =
          mergeUnder (Keyed.get? (layers.slots target) key) (Keyed.get? (layers.slots upper) key)
            (layers.under key) := by
  obtain ⟨sections, below⟩ := layers
  rw [mk.sizeOf_spec]
  refine (belowAt_mergeBelow (sectionOf sections target) (sectionOf sections upper) below
    key).imp_right (And.imp_left fun less => Nat.lt_of_lt_of_le less (by omega))

/-- Only sections that are reached from the one that is merged into change, each by what the other
one holds at its place. -/
theorem held_merge (target upper : Nat) (layers : Layers) (path : List Value) (owner : Nat) :
    (merge target upper layers).held path owner =
      match layers.ownerAt path target, layers.ownerAt path upper with
      | some reached, some laid =>
          if reached = owner then adopt (layers.held path reached) (layers.held path laid)
          else layers.held path owner
      | _, _ => layers.held path owner := by
  induction path generalizing target upper layers with
  | nil => exact slots_merge target upper layers owner
  | cons key path induction =>
      rw [held_cons]
      obtain ⟨nothing, still⟩ | ⟨-, merged⟩ := under_merge target upper layers key
      · have vacant (owner : Nat) : layers.held (key :: path) owner = [] := by
          rw [held_cons, nothing, held_empty]
        rw [still, held_empty]
        split
        · split <;> simp [vacant, adopt]
        · exact (vacant owner).symm
      · have unmet (reached : Option Nat) : layers.held (key :: path) owner =
            match reached, (none : Option Nat) with
            | some reached, some laid =>
                if reached = owner then
                  adopt (layers.held (key :: path) reached) (layers.held (key :: path) laid)
                else layers.held (key :: path) owner
            | _, _ => layers.held (key :: path) owner := by
          cases reached <;> rfl
        rw [merged, ownerAt, ownerAt]
        cases Keyed.get? (layers.slots target) key with
        | none => rfl
        | some slot =>
            cases slot with
            | leaf v => rfl
            | nested target =>
                cases Keyed.get? (layers.slots upper) key with
                | none => exact unmet _
                | some slot' =>
                    cases slot' with
                    | leaf v => exact unmet _
                    | nested upper => exact induction target upper (layers.under key)

theorem held_merge_of_reached {reached laid : Nat}
    (reaches : layers.ownerAt path target = some reached)
    (lays : layers.ownerAt path upper = some laid) :
    (merge target upper layers).held path reached =
      adopt (layers.held path reached) (layers.held path laid) := by
  rw [held_merge, reaches, lays]
  exact if_pos rfl

theorem held_merge_of_unreached
    (unreached : layers.ownerAt path target ≠ some owner ∨ layers.ownerAt path upper = none) :
    (merge target upper layers).held path owner = layers.held path owner := by
  rw [held_merge]
  split
  · next reached laid reaches lays =>
      refine if_neg fun same => ?_
      obtain apart | nowhere := unreached
      · exact apart (reaches.trans (congrArg some same))
      · rw [lays] at nowhere
        contradiction
  · rfl

/-! What is read from sections. -/

/-- What is read from a slot under a key. -/
def slotValue (layers : Layers) (key : Value) : Slot → Value
  | .leaf value => value
  | .nested owner => .map (layers.under key |>.read owner)

theorem readBelow_eq (key : Value) (owner : Nat) (below : List (Value × Layers)) :
    readBelow key owner below = read owner (belowAt key below) := by
  induction below with
  | nil => rfl
  | cons entry rest induction =>
      obtain ⟨key', inner⟩ := entry
      rw [readBelow, belowAt, induction]
      split <;> rfl

theorem read_eq (owner : Nat) (layers : Layers) :
    layers.read owner =
      (layers.slots owner).map fun entry => (entry.1, layers.slotValue entry.1 entry.2) := by
  obtain ⟨sections, below⟩ := layers
  rw [read]
  refine List.map_congr_left fun entry _ => ?_
  obtain ⟨key, slot⟩ := entry
  cases slot with
  | leaf v => rfl
  | nested owner => exact congrArg (fun inner => (key, Value.map inner)) (readBelow_eq key owner below)

theorem slotValue_congr {other : Value} (same : key.sameKey other = true) (layers : Layers)
    (slot : Slot) : layers.slotValue key slot = layers.slotValue other slot := by
  cases slot with
  | leaf v => rfl
  | nested owner => rw [slotValue, slotValue, under_congr same]

theorem keys_read (owner : Nat) (layers : Layers) :
    Keyed.keys (layers.read owner) = Keyed.keys (layers.slots owner) := by
  rw [read_eq, Keyed.keys, Keyed.keys, List.map_map]
  rfl

theorem get?_read (owner : Nat) (layers : Layers) (key : Value) :
    Keyed.get? (layers.read owner) key =
      (Keyed.get? (layers.slots owner) key).map (layers.slotValue key) := by
  rw [read_eq, Keyed.get?_map, Keyed.get?, Option.map_map]
  refine Option.map_congr fun entry found => ?_
  have same := List.find?_some found
  exact slotValue_congr same layers entry.2

/-- Layers whose sections have keys of their own, and no mapping in a slot by itself. -/
structure Sound (layers : Layers) : Prop where
  distinct : ∀ path owner, Keyed.Distinct (layers.held path owner)
  leaves : ∀ path owner key value,
    Keyed.get? (layers.held path owner) key = some (.leaf value) → value.isMap = false

theorem Sound.under (sound : Sound layers) (key : Value) : Sound (layers.under key) :=
  ⟨fun path => sound.distinct (key :: path), fun path => sound.leaves (key :: path)⟩

theorem Sound.distinct_read (sound : Sound layers) (owner : Nat) :
    Keyed.Distinct (layers.read owner) := by
  obtain ⟨hashable, apart⟩ := sound.distinct [] owner
  rw [held_nil, ← keys_read] at hashable apart
  exact ⟨hashable, apart⟩

theorem at?_read_cons (owner : Nat) (layers : Layers) (key : Value) (path : List Value) :
    (Value.map (layers.read owner)).at? (key :: path) =
      (Keyed.get? (layers.slots owner) key).bind fun slot =>
        (layers.slotValue key slot).at? path := by
  rw [Value.at?_map_cons, get?_read, Option.bind_map]
  rfl

/-- A path that leads to a section reads as the mapping in it. -/
theorem at?_read_of_ownerAt {reached : Nat} (reaches : layers.ownerAt path owner = some reached) :
    (Value.map (layers.read owner)).at? path = some (.map ((layers.place path).read reached)) := by
  induction path generalizing owner layers with
  | nil =>
      obtain rfl := Option.some.inj (ownerAt_nil owner layers ▸ reaches)
      exact Value.at?_nil _
  | cons key path induction =>
      obtain ⟨inner, nested, reaches⟩ := ownerAt_cons_eq_some reaches
      rw [at?_read_cons, nested]
      exact induction reaches

/-- A path leads to a mapping where it leads to a section. -/
theorem Sound.maps_read_iff (sound : Sound layers) :
    (Value.map (layers.read owner)).Maps path ↔ (layers.ownerAt path owner).isSome = true := by
  constructor
  · rintro ⟨entries, reached⟩
    induction path generalizing owner layers with
    | nil => rfl
    | cons key path induction =>
        rw [at?_read_cons] at reached
        obtain ⟨slot, held, reached⟩ := Option.bind_eq_some_iff.mp reached
        cases slot with
        | nested inner =>
            rw [ownerAt_cons_of_nested held]
            exact induction (sound.under key) reached
        | leaf v =>
            have leaf : v.isMap = false := sound.leaves [] owner key v held
            cases path with
            | nil =>
                obtain rfl : v = .map entries := Option.some.inj ((Value.at?_nil _).symm.trans reached)
                contradiction
            | cons next path =>
                rw [slotValue, Value.at?_cons_of_not_map leaf] at reached
                contradiction
  · intro reaches
    obtain ⟨reached, reaches⟩ := Option.isSome_iff_exists.mp reaches
    exact ⟨_, at?_read_of_ownerAt reaches⟩

/-- Two states of the layers agree on every section that is reached from one of them. -/
def Agrees (layers layers' : Layers) (owner : Nat) : Prop :=
  ∀ path reached, layers.ownerAt path owner = some reached →
    layers'.held path reached = layers.held path reached

variable {layers' : Layers}

theorem Agrees.slots (agrees : Agrees layers layers' owner) :
    layers'.slots owner = layers.slots owner :=
  agrees [] owner (ownerAt_nil owner layers)

theorem Agrees.under (agrees : Agrees layers layers' owner) {inner : Nat}
    (nested : Keyed.get? (layers.slots owner) key = some (.nested inner)) :
    Agrees (layers.under key) (layers'.under key) inner :=
  fun path reached reaches =>
    agrees (key :: path) reached ((ownerAt_cons_of_nested nested path).trans reaches)

theorem Agrees.ownerAt_eq (agrees : Agrees layers layers' owner) (path : List Value) :
    layers'.ownerAt path owner = layers.ownerAt path owner := by
  induction path generalizing owner layers layers' with
  | nil => rw [ownerAt_nil, ownerAt_nil]
  | cons key path induction =>
      rw [ownerAt, ownerAt, agrees.slots]
      split
      · next inner nested => exact induction (agrees.under nested)
      · rfl

/-- What is read depends on the sections that are reached only. -/
theorem Agrees.read_eq (agrees : Agrees layers layers' owner) (sound : Sound layers) :
    layers'.read owner = layers.read owner := by
  induction size : sizeOf layers using Nat.strong_induction_on generalizing layers layers' owner with
  | h _ induction =>
      rw [Layers.read_eq, Layers.read_eq, agrees.slots]
      refine List.map_congr_left fun entry member => ?_
      obtain ⟨key, slot⟩ := entry
      cases slot with
      | leaf v => rfl
      | nested inner =>
          have nested := (sound.distinct [] owner).get?_of_mem member
          refine congrArg (fun inner => (key, Value.map inner)) ?_
          obtain nothing | less := under_eq_empty_or_lt key layers
          · have slots := (agrees.under nested).slots
            rw [nothing, slots_empty] at slots
            rw [Layers.read_eq, slots, nothing]
            rfl
          · exact induction _ (size ▸ less) (agrees.under nested) (sound.under key) rfl

/-! Merging keeps the layers sound, and lays what is read from one section over what is read from the
other. -/

theorem distinct_adopt {held laid : Section} (distinct : Keyed.Distinct held)
    (distinct' : Keyed.Distinct laid) : Keyed.Distinct (adopt held laid) := by
  rw [adopt_eq_lay]
  exact distinct.lay adoptSlot distinct'.hashable

/-- A slot after merging is one that was held or one that was laid over it. -/
theorem slot_of_adopt {held laid : Section} (distinct : Keyed.Distinct laid) {slot : Slot}
    (found : Keyed.get? (adopt held laid) key = some slot) :
    Keyed.get? held key = some slot ∨ Keyed.get? laid key = some slot := by
  rw [get?_adopt held distinct] at found
  cases laidSlot : Keyed.get? laid key with
  | none => rw [laidSlot] at found; exact .inl found
  | some slot' =>
      rw [laidSlot, Option.elim_some, adoptSlot.eq_def] at found
      split at found
      · next heldOwner _ heldSlot => exact .inl (heldSlot.trans found)
      · exact .inr found

theorem slot_of_merge (sound : Sound layers) {slot : Slot}
    (found : Keyed.get? ((merge target upper layers).held path owner) key = some slot) :
    Keyed.get? (layers.held path owner) key = some slot ∨
      ∃ laid, layers.ownerAt path target = some owner ∧ layers.ownerAt path upper = some laid ∧
        Keyed.get? (layers.held path laid) key = some slot := by
  by_cases reaches : layers.ownerAt path target = some owner
  · cases lays : layers.ownerAt path upper with
    | none =>
        rw [held_merge_of_unreached (.inr lays)] at found
        exact .inl found
    | some laid =>
        rw [held_merge_of_reached reaches lays] at found
        exact (slot_of_adopt (sound.distinct path laid) found).imp_right
          fun slot => ⟨laid, reaches, rfl, slot⟩
  · rw [held_merge_of_unreached (.inl reaches)] at found
    exact .inl found

theorem Sound.merge (sound : Sound layers) (target upper : Nat) :
    Sound (layers.merge target upper) := by
  constructor
  · intro path owner
    by_cases reaches : layers.ownerAt path target = some owner
    · cases lays : layers.ownerAt path upper with
      | none =>
          rw [held_merge_of_unreached (.inr lays)]
          exact sound.distinct path owner
      | some laid =>
          rw [held_merge_of_reached reaches lays]
          exact distinct_adopt (sound.distinct path owner) (sound.distinct path laid)
    · rw [held_merge_of_unreached (.inl reaches)]
      exact sound.distinct path owner
  · intro path owner key value found
    obtain found | ⟨laid, -, -, found⟩ := slot_of_merge sound found
    · exact sound.leaves path owner key value found
    · exact sound.leaves path laid key value found

theorem mergeUnder_of_unmet {held laid : Option Slot}
    (unmet : ∀ target upper, held = some (.nested target) → laid = some (.nested upper) → False)
    (layers : Layers) : mergeUnder held laid layers = layers := by
  unfold mergeUnder
  split
  · next target upper => exact (unmet target upper rfl rfl).elim
  · rfl

/-- Where no section meets another, nothing below is merged. -/
theorem under_merge_of_unmet
    (unmet : ∀ target' upper', Keyed.get? (layers.slots target) key = some (.nested target') →
      Keyed.get? (layers.slots upper) key = some (.nested upper') → False) :
    (layers.merge target upper).under key = layers.under key := by
  obtain ⟨nothing, still⟩ | ⟨-, merged⟩ := under_merge target upper layers key
  · exact still.trans nothing.symm
  · exact merged.trans (mergeUnder_of_unmet unmet _)

/-- Under one key merging lays one value over the other, if it does where two sections meet. -/
theorem get?_read_merge (sound : Sound layers) (key : Value)
    (meets : ∀ target' upper', Keyed.get? (layers.slots target) key = some (.nested target') →
      Keyed.get? (layers.slots upper) key = some (.nested upper') →
        ((layers.merge target upper).under key).read target' =
          ((layers.under key).read target').overlay ((layers.under key).read upper')) :
    Keyed.get? ((layers.merge target upper).read target) key =
      Keyed.get? ((layers.read target).overlay (layers.read upper)) key := by
  have slots : (layers.merge target upper).slots target =
      adopt (layers.slots target) (layers.slots upper) :=
    (slots_merge target upper layers target).trans (if_pos rfl)
  have distinct : Keyed.Distinct (layers.slots upper) := sound.distinct [] upper
  rw [Mapping.get?_overlay (sound.distinct_read upper), get?_read, get?_read, get?_read, slots,
    get?_adopt _ distinct]
  have leaves (owner : Nat) := sound.leaves [] owner key
  cases laid : Keyed.get? (layers.slots upper) key with
  | none =>
      have still : (layers.merge target upper).under key = layers.under key :=
        under_merge_of_unmet fun _ _ _ nested => by simp [laid] at nested
      refine Option.map_congr fun slot _ => ?_
      cases slot with
      | leaf v => rfl
      | nested owner => rw [slotValue, slotValue, still]
  | some slot =>
      rw [Option.elim_some, Option.map_some, Option.map_some, Option.elim_some]
      refine congrArg some ?_
      cases slot with
      | leaf w =>
          have leaf : w.isMap = false := leaves upper w laid
          rw [slotValue, Mapping.overlayValue_of_not_map leaf, adoptSlot_of_apart (by simp), slotValue]
      | nested upper' =>
          cases held : Keyed.get? (layers.slots target) key with
          | none =>
              have still : (layers.merge target upper).under key = layers.under key :=
                under_merge_of_unmet fun _ _ nested => by simp [held] at nested
              rw [adoptSlot_of_apart (by simp), slotValue, slotValue, still]
              rfl
          | some slot =>
              cases slot with
              | nested target' =>
                  rw [Option.map_some, slotValue, slotValue, Mapping.overlayValue_map_of_maps,
                    ← meets target' upper' held laid]
                  rfl
              | leaf v =>
                  have still : (layers.merge target upper).under key = layers.under key :=
                    under_merge_of_unmet fun _ _ nested => by simp [held] at nested
                  have apart (inner : Mapping) : some v ≠ some (.map inner) := fun same => by
                    have leaf : v.isMap = false := leaves target v held
                    rw [Option.some.inj same] at leaf
                    contradiction
                  rw [adoptSlot_of_apart (by simp), slotValue, slotValue, still, Option.map_some,
                    slotValue, Mapping.overlayValue_map_of_not_map apart]

/-- Merging lays one mapping over the other. -/
theorem read_merge (sound : Sound layers) (target upper : Nat) :
    (layers.merge target upper).read target =
      (layers.read target).overlay (layers.read upper) := by
  induction size : sizeOf layers using Nat.strong_induction_on generalizing layers target upper with
  | h _ induction =>
      refine (sound.merge target upper).distinct_read target |>.ext ?_ fun key => ?_
      · have slots : (layers.merge target upper).slots target =
            adopt (layers.slots target) (layers.slots upper) :=
          (slots_merge target upper layers target).trans (if_pos rfl)
        rw [keys_read, slots, adopt_eq_lay, Keyed.keys_lay, Mapping.overlay_eq_lay, Keyed.keys_lay,
          keys_read, keys_read]
      · refine get?_read_merge sound key fun target' upper' held laid => ?_
        obtain ⟨nothing, still⟩ | ⟨less, merged⟩ := under_merge target upper layers key
        · rw [nothing, still]
          rfl
        · rw [merged, held, laid]
          exact induction _ (size ▸ less) (sound.under key) target' upper' rfl

/-! Whose section a path leads to after merging. -/

theorem cuts_read_cons_iff (owner : Nat) (layers : Layers) (key : Value) (path : List Value) :
    (Value.map (layers.read owner)).Cuts (key :: path) ↔
      ∃ slot, Keyed.get? (layers.slots owner) key = some slot ∧
        ((layers.slotValue key slot).isMap = false ∨ (layers.slotValue key slot).Cuts path) := by
  rw [Value.cuts_cons_iff, get?_read]
  simp only [Option.map_eq_some_iff]
  constructor
  · rintro ⟨_, ⟨slot, held, rfl⟩, cuts⟩
    exact ⟨slot, held, cuts⟩
  · rintro ⟨slot, held, cuts⟩
    exact ⟨_, ⟨slot, held, rfl⟩, cuts⟩

theorem ownerAt_empty_cons (key : Value) (path : List Value) (owner : Nat) :
    empty.ownerAt (key :: path) owner = none := rfl

/-- A section that a path leads to stays unless the path is cut off, and one that is laid where there is
none is taken over. -/
theorem ownerAt_merge_iff (sound : Sound layers) {reached : Nat} :
    (layers.merge target upper).ownerAt path target = some reached ↔
      (layers.ownerAt path target = some reached ∧ ¬ (Value.map (layers.read upper)).Cuts path) ∨
        layers.ownerAt path target = none ∧ layers.ownerAt path upper = some reached := by
  induction path generalizing target upper layers with
  | nil => simp [Value.not_cuts_nil]
  | cons key path induction =>
      have slots : (layers.merge target upper).slots target =
          adopt (layers.slots target) (layers.slots upper) :=
        (slots_merge target upper layers target).trans (if_pos rfl)
      have distinct : Keyed.Distinct (layers.slots upper) := sound.distinct [] upper
      rw [cuts_read_cons_iff, ownerAt, slots, get?_adopt _ distinct, ownerAt, ownerAt]
      cases laid : Keyed.get? (layers.slots upper) key with
      | none =>
          have still : (layers.merge target upper).under key = layers.under key :=
            under_merge_of_unmet fun _ _ _ nested => by simp [laid] at nested
          rw [Option.elim_none, still]
          simp
      | some slot =>
          rw [Option.elim_some]
          cases slot with
          | leaf w =>
              have leaf : w.isMap = false := sound.leaves [] upper key w laid
              rw [adoptSlot_of_apart (by simp)]
              simp [slotValue, leaf]
          | nested upper' =>
              have cuts : (∃ slot, some (Slot.nested upper') = some slot ∧
                  ((layers.slotValue key slot).isMap = false ∨
                    (layers.slotValue key slot).Cuts path)) ↔
                  (Value.map ((layers.under key).read upper')).Cuts path := by
                simp [slotValue, Value.isMap]
              rw [cuts]
              cases held : Keyed.get? (layers.slots target) key with
              | none =>
                  have still : (layers.merge target upper).under key = layers.under key :=
                    under_merge_of_unmet fun _ _ nested => by simp [held] at nested
                  rw [adoptSlot_of_apart (by simp), still]
                  simp
              | some slot =>
                  cases slot with
                  | leaf v =>
                      have still : (layers.merge target upper).under key = layers.under key :=
                        under_merge_of_unmet fun _ _ nested => by simp [held] at nested
                      rw [adoptSlot_of_apart (by simp), still]
                      simp
                  | nested target' =>
                      obtain ⟨nothing, still⟩ | ⟨-, merged⟩ := under_merge target upper layers key
                      · rw [still, nothing]
                        cases path with
                        | nil => simp [adoptSlot, Value.not_cuts_nil]
                        | cons next path => simp [adoptSlot, ownerAt_empty_cons]
                      · rw [merged, held, laid]
                        exact induction (sound.under key)

theorem ownerAt_of_merge (sound : Sound layers) {reached : Nat}
    (reaches : (layers.merge target upper).ownerAt path target = some reached) :
    layers.ownerAt path target = some reached ∨ layers.ownerAt path upper = some reached :=
  ((ownerAt_merge_iff sound).mp reaches).imp And.left And.right

end WalCheckpoint.Config.Layers
