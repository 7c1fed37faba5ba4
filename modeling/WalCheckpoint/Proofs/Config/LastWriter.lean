import WalCheckpoint.Proofs.Config.Merge
import WalCheckpoint.Proofs.Document

namespace WalCheckpoint.Config

/-! What a merged configuration binds paths to. Along every path the last configuration counts that has
a say in it. -/

variable {configs : List Value} {path : List Value}

/-- What one last element decides, unless it leaves it to those before it. -/
theorem exists_split_append_iff {hit keep : α → Prop} (before : List α) (last : α) :
    (∃ front x after, before ++ [last] = front ++ x :: after ∧ hit x ∧ ∀ later ∈ after, keep later) ↔
      hit last ∨ keep last ∧
        ∃ front x after, before = front ++ x :: after ∧ hit x ∧ ∀ later ∈ after, keep later := by
  constructor
  · rintro ⟨front, x, after, same, hits, keeps⟩
    obtain rfl | ⟨after, y, rfl⟩ := after.eq_nil_or_concat
    · obtain ⟨-, same⟩ := List.append_inj' same rfl
      obtain rfl := (List.cons.inj same).1
      exact .inl hits
    · rw [List.concat_eq_append] at same keeps
      rw [← List.cons_append, ← List.append_assoc] at same
      obtain ⟨rfl, ends⟩ := List.append_inj' same rfl
      obtain rfl := (List.cons.inj ends).1
      obtain ⟨earlier, here⟩ := List.forall_mem_append.mp keeps
      exact .inr ⟨here last (List.mem_singleton_self last), front, x, after, rfl, hits, earlier⟩
  · rintro (hits | ⟨keeps, front, x, after, rfl, hits, earlier⟩)
    · exact ⟨before, last, [], rfl, hits, List.forall_mem_nil _⟩
    · refine ⟨front, x, after ++ [last], List.append_assoc _ _ _, hits, ?_⟩
      exact List.forall_mem_append.mpr ⟨earlier, List.forall_mem_singleton.mpr keeps⟩

theorem at?_entries (nonempty : path ≠ []) (v : Value) :
    (Value.map (Layers.entries v)).at? path = v.at? path := by
  cases isMap : v.isMap with
  | true =>
      obtain ⟨entries, rfl⟩ := Value.eq_map_of_isMap isMap
      rfl
  | false =>
      cases path with
      | nil => exact absurd rfl nonempty
      | cons key path =>
          rw [Layers.entries_of_not_map isMap, Value.at?_cons_of_not_map isMap]
          rfl

theorem cuts_entries_iff (v : Value) : (Value.map (Layers.entries v)).Cuts path ↔ v.Cuts path := by
  constructor
  all_goals
    rintro ⟨front, rest, other, same, nonempty, reached, leaf⟩
    refine ⟨front, rest, other, same, nonempty, ?_, leaf⟩
  · rwa [at?_entries nonempty] at reached
  · rwa [at?_entries nonempty]

theorem at?_nothing (nonempty : path ≠ []) : (Value.map (laid [])).at? path = none := by
  cases path with
  | nil => exact absurd rfl nonempty
  | cons key path => rfl

theorem maps_laid_iff (keyed : ∀ config ∈ configs, config.WellKeyed) (nonempty : path ≠ []) :
    (Value.map (laid configs)).Maps path ↔
      ∃ before config after, configs = before ++ config :: after ∧ config.Maps path ∧
        ∀ later ∈ after, ¬ later.Cuts path := by
  induction configs using List.reverseRecOn with
  | nil =>
      rw [Value.Maps, at?_nothing nonempty]
      simp
  | append_singleton configs config induction =>
      obtain ⟨earlier, here⟩ := List.forall_mem_append.mp keyed
      have wellKeyed := Layers.wellKeyed_entries (here config (List.mem_singleton_self config))
      rw [exists_split_append_iff, ← induction earlier, laid_append,
        Mapping.maps_overlay_iff wellKeyed, cuts_entries_iff, Value.Maps, at?_entries nonempty]
      rfl

theorem at?_laid_iff (keyed : ∀ config ∈ configs, config.WellKeyed) (nonempty : path ≠ [])
    {value : Value} (leaf : value.isMap = false) :
    (Value.map (laid configs)).at? path = some value ↔
      ∃ before config after, configs = before ++ config :: after ∧ config.at? path = some value ∧
        ∀ later ∈ after, later.at? path = none ∧ ¬ later.Cuts path := by
  induction configs using List.reverseRecOn with
  | nil =>
      rw [at?_nothing nonempty]
      simp
  | append_singleton configs config induction =>
      obtain ⟨earlier, here⟩ := List.forall_mem_append.mp keyed
      have wellKeyed := Layers.wellKeyed_entries (here config (List.mem_singleton_self config))
      rw [exists_split_append_iff, ← induction earlier, laid_append,
        Mapping.at?_overlay_eq_some_iff wellKeyed leaf, cuts_entries_iff, at?_entries nonempty]

/-! What becomes of the configurations. -/

theorem merge_eq (configs : List Value) :
    merge configs =
      ⟨(stage configs configs.length).read configs.length,
        configs.zipIdx.map fun (config, owner) =>
          match config with
          | .map _ => .map ((stage configs configs.length).read owner)
          | config => config⟩ := by
  rw [← foldl_merge]
  rfl

theorem merged_eq (keyed : ∀ config ∈ configs, config.WellKeyed) :
    (merge configs).merged = laid configs := by
  rw [merge_eq, read_stage keyed (Nat.le_refl _), List.take_length]

theorem getElem?_configs (configs : List Value) (i : Nat) :
    (merge configs).configs[i]? = configs[i]?.map fun config =>
      match config with
      | .map _ => .map ((stage configs configs.length).read i)
      | config => config := by
  rw [merge_eq, List.getElem?_map, List.getElem?_zipIdx, Option.map_map, Nat.zero_add]
  rfl

theorem getElem?_configs_of_map {i : Nat} {m : Mapping} (here : configs[i]? = some (.map m)) :
    (merge configs).configs[i]? = some (.map ((stage configs configs.length).read i)) := by
  rw [getElem?_configs, here]
  rfl

theorem getElem?_configs_of_not_map {i : Nat} {config : Value} (here : configs[i]? = some config)
    (other : config.isMap = false) : (merge configs).configs[i]? = some config := by
  rw [getElem?_configs, here]
  cases config <;> first | contradiction | rfl

/-- Merging a configuration leaves it as it is. -/
theorem read_stage_succ (keyed : ∀ config ∈ configs, config.WellKeyed) {i : Nat}
    (known : i < configs.length) :
    (stage configs (i + 1)).read i = Layers.entries configs[i] := by
  have staged := staged_stage keyed (Nat.le_of_lt known)
  have holds := holds_stage keyed (Nat.le_refl i) known
  have agrees : (stage configs i).Agrees (stage configs (i + 1)) i := fun path reached reaches => by
    rw [holds.owner_eq reaches]
    exact staged.held_of_le (Nat.le_refl i) known i path
  rw [agrees.read_eq staged.sound, read_stage_of_le keyed (Nat.le_refl i) known]

theorem getLast?_configs (keyed : ∀ config ∈ configs, config.WellKeyed) :
    (merge configs).configs.getLast? = configs.getLast? := by
  have size : (merge configs).configs.length = configs.length := by
    rw [merge_eq, List.length_map, List.length_zipIdx]
  rw [List.getLast?_eq_getElem?, List.getLast?_eq_getElem?, size]
  cases last : configs[configs.length - 1]? with
  | none => rw [getElem?_configs, last]; rfl
  | some config =>
      obtain ⟨known, same⟩ := List.getElem?_eq_some_iff.mp last
      cases isMap : config.isMap with
      | false => exact getElem?_configs_of_not_map last isMap
      | true =>
          obtain ⟨m, rfl⟩ := Value.eq_map_of_isMap isMap
          have read := read_stage_succ keyed known
          rw [Nat.sub_add_cancel (by omega), same] at read
          rw [getElem?_configs_of_map last, read]
          rfl

theorem overlay_nil {m : Mapping} (distinct : Keyed.Distinct m) : Mapping.overlay [] m = m := by
  rw [Mapping.overlay_eq_lay, Keyed.lay_of_absent _ distinct fun _ _ => rfl]
  refine (List.map_congr_left fun entry _ => ?_).trans (List.map_id m)
  obtain ⟨key, value⟩ := entry
  cases value <;> rfl

theorem mergeInOrder?_eq (mergeable : ∀ config ∈ configs, isMergeable config = true) :
    mergeInOrder? configs (List.range configs.length) = some (merge configs) := by
  refine if_pos (List.all_eq_true.mpr fun owner member => ?_)
  cases known : configs[owner]? with
  | none => rfl
  | some config => exact mergeable config (List.mem_of_getElem? known)

/-- A path is bound to what the last configuration binds it to that has a say in it, and the last
configuration stays as it is. What is laid over a configuration file is merged this way. -/
theorem merge_lastWriter (mergeable : ∀ config ∈ configs, isMergeable config = true)
    (keyed : ∀ config ∈ configs, config.WellKeyed) :
    ∃ result, mergeInOrder? configs (List.range configs.length) = some result ∧
      (∀ path, path ≠ [] →
        (∀ value, value.isMap = false →
          ((Value.map result.merged).at? path = some value ↔
            ∃ before config after, configs = before ++ config :: after ∧
              config.at? path = some value ∧
              ∀ later ∈ after, later.at? path = none ∧ ¬ later.Cuts path)) ∧
        ((Value.map result.merged).Maps path ↔
          ∃ before config after, configs = before ++ config :: after ∧ config.Maps path ∧
            ∀ later ∈ after, ¬ later.Cuts path)) ∧
      result.configs.getLast? = configs.getLast? ∧
      ∀ config overrides : Mapping, configs = [.map config, .map overrides] →
        overridden? (Document.entriesAlone config) (.map overrides) = some result.merged := by
  refine ⟨merge configs, mergeInOrder?_eq mergeable, fun path nonempty => ?_,
    getLast?_configs keyed, ?_⟩
  · rw [merged_eq keyed]
    exact ⟨fun value leaf => at?_laid_iff keyed nonempty leaf, maps_laid_iff keyed nonempty⟩
  · rintro config overrides rfl
    have distinct := (keyed (.map config) List.mem_cons_self).distinct
    rw [merged_eq keyed, overridden?, laidOver, Document.entryValues_lay_entriesAlone]
    show some (Mapping.overlay config overrides) =
      some (Mapping.overlay (Mapping.overlay [] config) overrides)
    rw [overlay_nil distinct]

/-- A mapping gives way to a number, and the number to another mapping. -/
theorem merge_lastWriter_back_and_forth :
    let single (name : String) (value : Value) : Value := .map [(.string name, value)]
    let configs := [single "a" (single "b" (.int 1)), single "a" (.int 2), .null,
      single "a" (single "c" (.int 3))]
    let path (names : List String) : List Value := names.map .string
    ∃ result, mergeInOrder? configs (List.range configs.length) = some result ∧
      (Value.map result.merged).at? (path ["a", "c"]) = some (.int 3) ∧
      (Value.map result.merged).Maps (path ["a"]) ∧
      result.configs.getLast? = configs.getLast? := by
  intro single configs path
  have mergeable : ∀ config ∈ configs, isMergeable config = true := by decide
  have allKeyed : ∀ config ∈ configs, config.WellKeyed :=
    List.forall_mem_cons.mpr ⟨.single "a" (.single "b" (.other rfl)), List.forall_mem_cons.mpr
      ⟨.single "a" (.other rfl), List.forall_mem_cons.mpr ⟨.other rfl, List.forall_mem_singleton.mpr
        (.single "a" (.single "c" (.other rfl)))⟩⟩⟩
  obtain ⟨result, merged, binds, last, -⟩ := merge_lastWriter mergeable allKeyed
  refine ⟨result, merged, ?_, ?_, last⟩
  · exact ((binds (path ["a", "c"]) (List.cons_ne_nil _ _)).1 (.int 3) rfl).mpr
      ⟨configs.take 3, _, [], rfl, rfl, List.forall_mem_nil _⟩
  · exact (binds (path ["a"]) (List.cons_ne_nil _ _)).2.mpr
      ⟨configs.take 3, _, [], rfl, ⟨_, rfl⟩, List.forall_mem_nil _⟩

end WalCheckpoint.Config
