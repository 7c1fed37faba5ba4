import WalCheckpoint.Config.Load
import WalCheckpoint.Proofs.Config.Merging

namespace WalCheckpoint.Config

/-! Configurations that are merged one after the other. What the merged one binds a path to is told by
the last that has a say in it. -/

open Value (WellKeyed)

namespace Layers

variable {layers : Layers} {owner : Nat} {key : Value} {path : List Value}

/-- What holds of an owner and of every one that is named in a section of such an owner holds of all
whose sections are reached. -/
theorem ownerAt_of_closed {P : Nat → Prop}
    (closed : ∀ path owner key inner, P owner →
      Keyed.get? (layers.held path owner) key = some (.nested inner) → P inner)
    {reached : Nat} (reaches : layers.ownerAt path owner = some reached) (start : P owner) :
    P reached := by
  induction path generalizing owner layers with
  | nil => exact Option.some.inj (ownerAt_nil owner layers ▸ reaches) ▸ start
  | cons key path induction =>
      obtain ⟨inner, nested, reaches⟩ := ownerAt_cons_eq_some reaches
      exact induction (fun path => closed (key :: path)) reaches (closed [] owner key inner start nested)

/-- Sections of an owner that hold what a mapping does at every place. -/
def Holds (layers : Layers) (owner : Nat) (m : Mapping) : Prop :=
  ∀ path, layers.held path owner = contents owner ((Value.map m).at? path)

theorem slotOf_isMap (owner : Nat) (value : Value) :
    (∃ inner, value = .map inner ∧ slotOf owner value = .nested owner) ∨
      value.isMap = false ∧ slotOf owner value = .leaf value := by
  cases value <;> first | exact .inr ⟨rfl, rfl⟩ | exact .inl ⟨_, rfl, rfl⟩

theorem slot_of_contents {value? : Option Value} {slot : Slot}
    (found : Keyed.get? (contents owner value?) key = some slot) :
    slot = .nested owner ∨ ∃ value, slot = .leaf value ∧ value.isMap = false := by
  rw [contents.eq_def] at found
  split at found
  · next entries =>
      rw [← contents, get?_contents] at found
      obtain ⟨value, -, rfl⟩ := Option.map_eq_some_iff.mp found
      obtain ⟨inner, -, nested⟩ | ⟨leaf, same⟩ := slotOf_isMap owner value
      · exact .inl nested
      · exact .inr ⟨value, same, leaf⟩
  · contradiction

theorem nested_of_contents {value? : Option Value} {inner : Nat}
    (nested : Keyed.get? (contents owner value?) key = some (.nested inner)) : inner = owner := by
  obtain same | ⟨value, same, -⟩ := slot_of_contents nested
  · exact Slot.nested.inj same
  · contradiction

theorem Holds.owner_eq {m : Mapping} (holds : Holds layers owner m) {reached : Nat}
    (reaches : layers.ownerAt path owner = some reached) : reached = owner := by
  refine ownerAt_of_closed (P := fun other => other = owner) ?_ reaches rfl
  rintro path _ key inner rfl nested
  rw [holds] at nested
  exact nested_of_contents nested

/-- What is read of a configuration that nothing changed is the configuration. -/
theorem Holds.read_eq {v : Value} (keyed : v.WellKeyed) {m : Mapping} (same : v = .map m)
    (holds : Holds layers owner m) : layers.read owner = m := by
  induction keyed generalizing m layers with
  | other other => rw [same] at other; contradiction
  | @map entries distinct within induction =>
      obtain rfl := Value.map.inj same
      have slots : layers.slots owner = contents owner (some (.map entries)) := holds []
      rw [Layers.read_eq, slots, contents, List.map_map]
      refine (List.map_congr_left fun entry member => ?_).trans (List.map_id entries)
      obtain ⟨key, value⟩ := entry
      refine congrArg (Prod.mk key) ?_
      obtain ⟨inner, rfl, nested⟩ | ⟨leaf, same⟩ := slotOf_isMap owner value
      · show layers.slotValue key (slotOf owner (.map inner)) = .map inner
        rw [nested, slotValue]
        refine congrArg Value.map (induction (key, .map inner) member rfl fun path => ?_)
        have further := holds (key :: path)
        rwa [Value.at?_map_cons, distinct.get?_of_mem member] at further
      · show layers.slotValue key (slotOf owner value) = value
        rw [same, slotValue]

end Layers

/-- The sections once the first so many configurations are merged. -/
def stage (configs : List Value) : Nat → Layers
  | 0 => Layers.ofConfigs configs
  | i + 1 => (stage configs i).merge configs.length i

theorem foldl_merge (configs : List Value) (i : Nat) :
    (List.range i).foldl (fun layers owner => layers.merge configs.length owner)
      (Layers.ofConfigs configs) = stage configs i := by
  induction i with
  | zero => rfl
  | succ i induction => rw [List.range_succ, List.foldl_append, induction]; rfl

/-- Before a configuration is merged nothing of it is reached, and nothing of it is changed. -/
structure Staged (configs : List Value) (i : Nat) (layers : Layers) : Prop where
  sound : layers.Sound
  unmerged : ∀ j config, i ≤ j → configs[j]? = some config → layers.Holds j (Layers.entries config)
  bounded : ∀ path owner key inner, owner < i ∨ owner = configs.length →
    Keyed.get? (layers.held path owner) key = some (.nested inner) → inner < i

variable {configs : List Value} {i : Nat} {layers : Layers}

theorem distinct_contents_of_keyed {value? : Option Value}
    (keyed : ∀ value, value? = some value → value.WellKeyed) (owner : Nat) :
    Keyed.Distinct (Layers.contents owner value?) := by
  rw [Layers.contents.eq_def]
  split
  · next entries =>
      rw [← Layers.contents]
      exact Layers.distinct_contents (keyed _ rfl).distinct owner
  · exact Keyed.distinct_nil

theorem staged_zero (keyed : ∀ config ∈ configs, config.WellKeyed) :
    Staged configs 0 (stage configs 0) := by
  have held := Layers.held_ofConfigs keyed
  constructor
  · constructor
    · intro path owner
      rw [stage, held]
      refine distinct_contents_of_keyed (fun value reached => ?_) owner
      obtain ⟨root, known, reached⟩ := Option.bind_eq_some_iff.mp reached
      obtain ⟨config, here, rfl⟩ := Option.map_eq_some_iff.mp known
      exact (Layers.wellKeyed_entries (keyed config (List.mem_of_getElem? here))).of_at? reached
    · intro path owner key value found
      rw [stage, held] at found
      obtain same | ⟨value', same, leaf⟩ := Layers.slot_of_contents found
      · contradiction
      · exact Slot.leaf.inj same ▸ leaf
  · intro j config _ known path
    rw [stage, held, known]
    rfl
  · rintro path owner key inner (below | rfl) nested
    · exact absurd below (Nat.not_lt_zero owner)
    · rw [stage, held, List.getElem?_eq_none (Nat.le_refl _)] at nested
      contradiction

namespace Staged

/-- Only sections of the merged configuration and of those before are reached from it. -/
theorem reached_lt (staged : Staged configs i layers) {path : List Value} {reached : Nat}
    (reaches : layers.ownerAt path configs.length = some reached) :
    reached < i ∨ reached = configs.length :=
  Layers.ownerAt_of_closed (P := fun owner => owner < i ∨ owner = configs.length)
    (fun path owner key inner within nested => .inl (staged.bounded path owner key inner within nested))
    reaches (.inr rfl)

theorem held_of_le (staged : Staged configs i layers) {j : Nat} (later : i ≤ j)
    (known : j < configs.length) (upper : Nat) (path : List Value) :
    (layers.merge configs.length upper).held path j = layers.held path j := by
  refine Layers.held_merge_of_unreached (.inl fun reaches => ?_)
  obtain below | same := staged.reached_lt reaches
  · omega
  · omega

theorem succ (staged : Staged configs i layers) (known : i < configs.length) :
    Staged configs (i + 1) (layers.merge configs.length i) := by
  have holds : layers.Holds i (Layers.entries configs[i]) :=
    staged.unmerged i _ (Nat.le_refl i) (List.getElem?_eq_getElem known)
  constructor
  · exact staged.sound.merge configs.length i
  · intro j config later here path
    rw [staged.held_of_le (by omega) (List.getElem?_eq_some_iff.mp here).1 i]
    exact staged.unmerged j config (by omega) here path
  · intro path owner key inner within nested
    obtain kept | ⟨laid, -, lays, brought⟩ := Layers.slot_of_merge staged.sound nested
    · by_cases here : owner = i
      · rw [here, holds] at kept
        have := Layers.nested_of_contents kept
        omega
      · have := staged.bounded path owner key inner (by omega) kept
        omega
    · rw [holds.owner_eq lays, holds] at brought
      have := Layers.nested_of_contents brought
      omega

end Staged

theorem staged_stage (keyed : ∀ config ∈ configs, config.WellKeyed) (known : i ≤ configs.length) :
    Staged configs i (stage configs i) := by
  induction i with
  | zero => exact staged_zero keyed
  | succ i induction => exact (induction (by omega)).succ known

/-- A configuration that is not merged yet is held as it is. -/
theorem holds_stage (keyed : ∀ config ∈ configs, config.WellKeyed) {j : Nat} (later : i ≤ j)
    (known : j < configs.length) : (stage configs i).Holds j (Layers.entries configs[j]) :=
  (staged_stage keyed (by omega)).unmerged j _ later (List.getElem?_eq_getElem known)

theorem wellKeyed_entries_getElem (keyed : ∀ config ∈ configs, config.WellKeyed)
    (known : i < configs.length) : (Value.map (Layers.entries configs[i])).WellKeyed :=
  Layers.wellKeyed_entries (keyed _ (List.getElem_mem known))

/-- Configurations laid over each other in their order. -/
def laid (configs : List Value) : Mapping :=
  configs.foldl (fun merged config => merged.overlay (Layers.entries config)) []

theorem laid_append (configs : List Value) (config : Value) :
    laid (configs ++ [config]) = (laid configs).overlay (Layers.entries config) := by
  rw [laid, List.foldl_append]
  rfl

theorem read_stage_of_le (keyed : ∀ config ∈ configs, config.WellKeyed) {j : Nat}
    (later : i ≤ j) (known : j < configs.length) :
    (stage configs i).read j = Layers.entries configs[j] :=
  (holds_stage keyed later known).read_eq (wellKeyed_entries_getElem keyed known) rfl

/-- What is merged so far is what the configurations so far are, laid over each other. -/
theorem read_stage (keyed : ∀ config ∈ configs, config.WellKeyed) (known : i ≤ configs.length) :
    (stage configs i).read configs.length = laid (configs.take i) := by
  induction i with
  | zero =>
      have slots : (stage configs 0).slots configs.length = [] := by
        have held := Layers.held_ofConfigs keyed [] configs.length
        rw [List.getElem?_eq_none (Nat.le_refl _)] at held
        exact held
      rw [Layers.read_eq, slots]
      rfl
  | succ i induction =>
      have staged := staged_stage keyed (show i ≤ configs.length by omega)
      rw [stage, Layers.read_merge staged.sound, induction (by omega),
        read_stage_of_le keyed (Nat.le_refl i) known, ← laid_append, List.take_append_getElem known]

end WalCheckpoint.Config
