import WalCheckpoint.Proofs.Config.LastWriter

namespace WalCheckpoint.Config

/-! What merging makes of the configurations themselves. A mapping that is taken over as it stands goes on
changing with the merged configuration, until that one has something else in its place. -/

namespace Layers

variable {layers layers' layers'' : Layers} {owner : Nat} {key : Value} {path front rest : List Value}

theorem held_append (front rest : List Value) (owner : Nat) (layers : Layers) :
    layers.held (front ++ rest) owner = (layers.place front).held rest owner := by
  induction front generalizing layers with
  | nil => rfl
  | cons key front induction => exact induction (layers.under key)

theorem ownerAt_append (front rest : List Value) (owner : Nat) (layers : Layers) :
    layers.ownerAt (front ++ rest) owner =
      (layers.ownerAt front owner).bind fun inner => (layers.place front).ownerAt rest inner := by
  induction front generalizing owner layers with
  | nil => rw [ownerAt_nil]; rfl
  | cons key front induction =>
      rw [List.cons_append, ownerAt, ownerAt]
      split
      · exact induction _ _
      · rfl

theorem Sound.place (sound : Sound layers) (path : List Value) : Sound (layers.place path) := by
  induction path generalizing layers with
  | nil => exact sound
  | cons key path induction => exact induction (sound.under key)

theorem Agrees.trans (agrees : Agrees layers layers' owner) (agrees' : Agrees layers' layers'' owner) :
    Agrees layers layers'' owner := by
  intro path reached reaches
  rw [agrees' path reached (agrees.ownerAt_eq path ▸ reaches), agrees path reached reaches]

theorem Holds.maps_iff {m : Mapping} (holds : Holds layers owner m) (sound : Sound layers)
    (keyed : (Value.map m).WellKeyed) :
    layers.ownerAt path owner = some owner ↔ (Value.map m).Maps path := by
  rw [← holds.read_eq keyed rfl, sound.maps_read_iff, Option.isSome_iff_exists]
  constructor
  · exact fun reaches => ⟨owner, reaches⟩
  · rintro ⟨reached, reaches⟩
    rw [reaches, holds.owner_eq reaches]

/-- What is not a mapping is read from a slot of its own. -/
theorem Sound.leaf_read_iff (sound : Sound layers) {value : Value} (leaf : value.isMap = false) :
    (Value.map (layers.read owner)).at? (path ++ [key]) = some value ↔
      ∃ reached, layers.ownerAt path owner = some reached ∧
        Keyed.get? (layers.held path reached) key = some (.leaf value) := by
  rw [Value.at?_append]
  constructor
  · intro found
    obtain ⟨w, there, found⟩ := Option.bind_eq_some_iff.mp found
    have isMap : w.isMap = true := eq_true_of_ne_false fun other => by
      rw [Value.at?_cons_of_not_map other] at found
      contradiction
    obtain ⟨entries, rfl⟩ := Value.eq_map_of_isMap isMap
    obtain ⟨reached, reaches⟩ :=
      Option.isSome_iff_exists.mp (sound.maps_read_iff.mp ⟨entries, there⟩)
    obtain rfl := Value.map.inj (Option.some.inj ((at?_read_of_ownerAt reaches).symm.trans there))
    rw [at?_read_cons] at found
    obtain ⟨slot, held, found⟩ := Option.bind_eq_some_iff.mp found
    refine ⟨reached, reaches, held.trans (congrArg some ?_)⟩
    rw [Value.at?_nil, Option.some.injEq] at found
    cases slot with
    | leaf v => exact congrArg Slot.leaf found
    | nested inner => rw [← found] at leaf; contradiction
  · rintro ⟨reached, reaches, held⟩
    have held : Keyed.get? ((layers.place path).slots reached) key = some (.leaf value) := held
    rw [at?_read_of_ownerAt reaches, Option.bind_some, at?_read_cons, held]
    exact Value.at?_nil value

end Layers

section Stages

variable {configs : List Value} {i j : Nat} {path : List Value}

/-- Some configuration's mapping at a path is the merged one's while it is, and never becomes so later. -/
theorem shared_succ_iff (keyed : ∀ config ∈ configs, config.WellKeyed) (earlier : j < i)
    (known : i < configs.length) :
    (stage configs (i + 1)).ownerAt path configs.length = some j ↔
      (stage configs i).ownerAt path configs.length = some j ∧ ¬ configs[i].Cuts path := by
  have staged := staged_stage keyed (Nat.le_of_lt known)
  have holds := holds_stage keyed (Nat.le_refl i) known
  rw [stage, Layers.ownerAt_merge_iff staged.sound, read_stage_of_le keyed (Nat.le_refl i) known,
    cuts_entries_iff, or_iff_left]
  rintro ⟨-, reaches⟩
  exact absurd (holds.owner_eq reaches) (Nat.ne_of_lt earlier)

theorem shared_first_iff (keyed : ∀ config ∈ configs, config.WellKeyed) (known : j < configs.length) :
    (stage configs (j + 1)).ownerAt path configs.length = some j ↔
      ¬ (Value.map (laid (configs.take j))).Maps path ∧
        (Value.map (Layers.entries configs[j])).Maps path := by
  have staged := staged_stage keyed (Nat.le_of_lt known)
  have holds := holds_stage keyed (Nat.le_refl j) known
  rw [stage, Layers.ownerAt_merge_iff staged.sound, or_iff_right,
    holds.maps_iff staged.sound (wellKeyed_entries_getElem keyed known), ← read_stage keyed (Nat.le_of_lt known),
    staged.sound.maps_read_iff, Bool.not_eq_true, Option.isSome_eq_false_iff, Option.isNone_iff_eq_none]
  rintro ⟨reaches, -⟩
  obtain below | same := staged.reached_lt reaches
  · exact absurd below (Nat.lt_irrefl j)
  · exact absurd same (Nat.ne_of_lt known)

/-- A mapping is shared from where it is taken over until it is cut off. -/
theorem shared_iff (keyed : ∀ config ∈ configs, config.WellKeyed) (earlier : j < i)
    (known : i ≤ configs.length) :
    (stage configs i).ownerAt path configs.length = some j ↔
      (stage configs (j + 1)).ownerAt path configs.length = some j ∧
        ∀ k config, j < k → k < i → configs[k]? = some config → ¬ config.Cuts path := by
  induction i with
  | zero => exact absurd earlier (Nat.not_lt_zero j)
  | succ i induction =>
      by_cases first : i = j
      · subst first
        refine (and_iff_left fun k config above below => ?_).symm
        omega
      · rw [shared_succ_iff keyed (by omega) known, induction (by omega) (by omega), and_assoc]
        refine and_congr_right fun _ => ⟨?_, fun uncut => ⟨?_, ?_⟩⟩
        · rintro ⟨uncut, last⟩ k config above below here
          by_cases same : k = i
          · subst same
            rw [List.getElem?_eq_getElem known] at here
            exact Option.some.inj here ▸ last
          · exact uncut k config above (by omega) here
        · exact fun k config above below here => uncut k config above (by omega) here
        · exact uncut i _ (by omega) (Nat.lt_succ_self i) (List.getElem?_eq_getElem known)

theorem not_shared_of_le (keyed : ∀ config ∈ configs, config.WellKeyed) (upTo : i ≤ j)
    (known : j < configs.length) :
    (stage configs i).ownerAt path configs.length ≠ some j := by
  intro reaches
  have staged := staged_stage keyed (show i ≤ configs.length by omega)
  obtain below | same := staged.reached_lt reaches <;> omega

/-- A section whose mapping is not taken over holds what it does from the beginning. -/
theorem held_stage_of_not_shared (keyed : ∀ config ∈ configs, config.WellKeyed) (later : j ≤ i)
    (known : i ≤ configs.length)
    (unshared : (stage configs (j + 1)).ownerAt path configs.length ≠ some j) :
    (stage configs i).held path j = (stage configs j).held path j := by
  induction i with
  | zero => rw [Nat.le_zero.mp later]
  | succ i induction =>
      by_cases first : j = i + 1
      · rw [first]
      · rw [← induction (by omega) (by omega)]
        refine Layers.held_merge_of_unreached (.inl fun reaches => ?_)
        by_cases here : i = j
        · exact not_shared_of_le keyed (Nat.le_of_eq here) (by omega) reaches
        · exact unshared ((shared_iff keyed (by omega) (by omega)).mp reaches).1

/-- A path leads to the same section from the beginning where nothing before its end is taken over. -/
theorem ownerAt_stage_of_not_shared (keyed : ∀ config ∈ configs, config.WellKeyed) (later : j ≤ i)
    (known : i ≤ configs.length) (own : j < configs.length)
    (unshared : ∀ front key rest, path = front ++ key :: rest →
      (stage configs (j + 1)).ownerAt front configs.length ≠ some j) :
    (stage configs i).ownerAt path j = (stage configs j).ownerAt path j := by
  induction path using List.reverseRecOn with
  | nil => rw [Layers.ownerAt_nil, Layers.ownerAt_nil]
  | append_singleton front key induction =>
      have holds := holds_stage keyed (Nat.le_refl j) own
      rw [Layers.ownerAt_append, Layers.ownerAt_append, induction fun front' key' rest same =>
        unshared front' key' (rest ++ [key]) (by rw [same, List.append_assoc]; rfl)]
      cases reaches : (stage configs j).ownerAt front j with
      | none => rfl
      | some reached =>
          obtain rfl := holds.owner_eq reaches
          have held := held_stage_of_not_shared keyed later known (unshared front key [] rfl)
          rw [Option.bind_some, Option.bind_some, Layers.ownerAt, Layers.ownerAt]
          rw [Layers.held, Layers.held] at held
          rw [held]
          split <;> simp

/-- What a configuration holds outside of what is taken over from it stays. -/
theorem read_stage_of_not_shared (keyed : ∀ config ∈ configs, config.WellKeyed) (own : j < configs.length)
    (unshared : ∀ front key rest, path = front ++ key :: rest →
      (stage configs (j + 1)).ownerAt front configs.length ≠ some j) :
    ((Value.map ((stage configs configs.length).read j)).Maps path ↔
      (Value.map (Layers.entries configs[j])).Maps path) ∧
    ∀ value, value.isMap = false →
      ((Value.map ((stage configs configs.length).read j)).at? path = some value ↔
        (Value.map (Layers.entries configs[j])).at? path = some value) := by
  have final := staged_stage keyed (Nat.le_refl configs.length)
  have staged := staged_stage keyed (Nat.le_of_lt own)
  have holds := holds_stage keyed (Nat.le_refl j) own
  rw [← read_stage_of_le keyed (Nat.le_refl j) own]
  constructor
  · rw [final.sound.maps_read_iff, staged.sound.maps_read_iff,
      ownerAt_stage_of_not_shared keyed (Nat.le_of_lt own) (Nat.le_refl _) own unshared]
  · intro value leaf
    obtain rfl | ⟨front, key, rfl⟩ := path.eq_nil_or_concat
    · rw [Value.at?_nil, Value.at?_nil]
      refine iff_of_false ?_ ?_
      all_goals
        rintro same
        rw [← Option.some.inj same] at leaf
        contradiction
    · rw [List.concat_eq_append] at unshared ⊢
      rw [final.sound.leaf_read_iff leaf, staged.sound.leaf_read_iff leaf,
        ownerAt_stage_of_not_shared keyed (Nat.le_of_lt own) (Nat.le_refl _) own
          fun front' key' rest same =>
            unshared front' key' (rest ++ [key]) (by rw [same, List.append_assoc]; rfl)]
      refine exists_congr fun reached => and_congr_right fun reaches => ?_
      rw [holds.owner_eq reaches, held_stage_of_not_shared keyed (Nat.le_of_lt own) (Nat.le_refl _)
        (unshared front key [] rfl)]

/-- A configuration that nothing is taken over from does not change. -/
theorem read_stage_of_never_shared (keyed : ∀ config ∈ configs, config.WellKeyed)
    (own : j < configs.length)
    (unshared : ∀ path, (stage configs (j + 1)).ownerAt path configs.length ≠ some j) :
    (stage configs configs.length).read j = Layers.entries configs[j] := by
  have staged := staged_stage keyed (Nat.le_of_lt own)
  have holds := holds_stage keyed (Nat.le_refl j) own
  have agrees : (stage configs j).Agrees (stage configs configs.length) j :=
    fun path reached reaches => by
      rw [holds.owner_eq reaches]
      exact held_stage_of_not_shared keyed (Nat.le_of_lt own) (Nat.le_refl _) (unshared path)
  rw [agrees.read_eq staged.sound, read_stage_of_le keyed (Nat.le_refl j) own]

theorem agrees_succ (path : List Value) (apart : ∀ sub reached,
    ((stage configs i).place path).ownerAt sub j = some reached →
      (stage configs i).ownerAt (path ++ sub) configs.length ≠ some reached ∨
        (stage configs i).ownerAt (path ++ sub) i = none) :
    ((stage configs i).place path).Agrees ((stage configs (i + 1)).place path) j := by
  intro sub reached reaches
  rw [← Layers.held_append, ← Layers.held_append]
  exact Layers.held_merge_of_unreached (apart sub reached reaches)

theorem ownerAt_stage_of_cuts (keyed : ∀ config ∈ configs, config.WellKeyed)
    (known : i < configs.length) (cuts : (Value.map (Layers.entries configs[i])).Cuts path) :
    (stage configs i).ownerAt path i = none := by
  have staged := staged_stage keyed (Nat.le_of_lt known)
  have holds := holds_stage keyed (Nat.le_refl i) known
  cases reaches : (stage configs i).ownerAt path i with
  | none => rfl
  | some reached =>
      rw [holds.owner_eq reaches,
        holds.maps_iff staged.sound (wellKeyed_entries_getElem keyed known)] at reaches
      exact absurd reaches cuts.not_maps

/-- Nothing that a configuration holds from a path on is the merged one's as well. -/
def Severed (configs : List Value) (i j : Nat) (path : List Value) : Prop :=
  ∀ sub reached, ((stage configs i).place path).ownerAt sub j = some reached →
    (stage configs i).ownerAt (path ++ sub) configs.length ≠ some reached

theorem severed_of_cuts (keyed : ∀ config ∈ configs, config.WellKeyed) (known : i < configs.length)
    (cuts : ∀ sub, (Value.map (Layers.entries configs[i])).Cuts (path ++ sub)) :
    Severed configs (i + 1) j path := by
  intro sub reached _ reaches
  have staged := staged_stage keyed (Nat.le_of_lt known)
  obtain ⟨-, uncut⟩ | ⟨-, laid⟩ := (Layers.ownerAt_merge_iff staged.sound).mp reaches
  · rw [read_stage_of_le keyed (Nat.le_refl i) known] at uncut
    exact uncut (cuts sub)
  · rw [ownerAt_stage_of_cuts keyed known (cuts sub)] at laid
    contradiction

theorem Severed.agrees (severed : Severed configs i j path) :
    ((stage configs i).place path).Agrees ((stage configs (i + 1)).place path) j :=
  agrees_succ path fun sub reached reaches => .inl (severed sub reached reaches)

/-- The merged configuration is given sections of the one that is merged only, so what is not its own
any more never is again. -/
theorem Severed.succ (keyed : ∀ config ∈ configs, config.WellKeyed) (earlier : j < i)
    (known : i < configs.length) (severed : Severed configs i j path) :
    Severed configs (i + 1) j path := by
  intro sub reached reaches shared
  have staged := staged_stage keyed (Nat.le_of_lt known)
  rw [severed.agrees.ownerAt_eq] at reaches
  obtain shared | own := Layers.ownerAt_of_merge staged.sound shared
  · exact severed sub reached reaches shared
  · have below : reached < i :=
      Layers.ownerAt_of_closed (P := fun owner => owner < i)
        (fun sub' owner key inner within nested => staged.bounded (path ++ sub') owner key inner
          (.inl within) (by rwa [Layers.held_append])) reaches earlier
    exact absurd ((holds_stage keyed (Nat.le_refl i) known).owner_eq own) (Nat.ne_of_lt below)

/-- What is cut off from the merged configuration does not change any more. -/
theorem agrees_of_cuts (keyed : ∀ config ∈ configs, config.WellKeyed) {k : Nat} (earlier : j < k)
    (cut : k < configs.length) (cuts : configs[k].Cuts path) (later : k ≤ i)
    (known : i ≤ configs.length) :
    ((stage configs k).place path).Agrees ((stage configs i).place path) j ∧
      (k < i → Severed configs i j path) := by
  induction i, later using Nat.le_induction with
  | base => exact ⟨fun _ _ _ => rfl, fun below => absurd below (Nat.lt_irrefl k)⟩
  | succ i later induction =>
      obtain ⟨agrees, severed⟩ := induction (by omega)
      obtain rfl | after := Nat.eq_or_lt_of_le later
      · have cutsAll (sub : List Value) : (Value.map (Layers.entries configs[k])).Cuts (path ++ sub) :=
          ((cuts_entries_iff _).mpr cuts).append sub
        exact ⟨agrees_succ path fun sub _ _ => .inr (ownerAt_stage_of_cuts keyed cut (cutsAll sub)),
          fun _ => severed_of_cuts keyed cut cutsAll⟩
      · exact ⟨agrees.trans (severed after).agrees,
          fun _ => (severed after).succ keyed (by omega) known⟩

/-- A mapping that is taken over becomes what the merged configuration holds in its place, up to where it
is cut off. -/
theorem at?_stage_of_shared (keyed : ∀ config ∈ configs, config.WellKeyed) {m : Nat} (earlier : j < m)
    (known : m ≤ configs.length)
    (shared : (stage configs (j + 1)).ownerAt path configs.length = some j)
    (unshared : ∀ front key rest, path = front ++ key :: rest →
      (stage configs (j + 1)).ownerAt front configs.length ≠ some j)
    (uncut : ∀ k config, j < k → k < m → configs[k]? = some config → ¬ config.Cuts path)
    (ends : ∀ config, configs[m]? = some config → config.Cuts path) :
    (Value.map ((stage configs configs.length).read j)).at? path =
      (Value.map (laid (configs.take m))).at? path := by
  have own : j < configs.length := by omega
  have staged := staged_stage keyed (Nat.le_of_lt own)
  have holds := holds_stage keyed (Nat.le_refl j) own
  have reaches : (stage configs configs.length).ownerAt path j = some j := by
    rw [ownerAt_stage_of_not_shared keyed (Nat.le_of_lt own) (Nat.le_refl _) own unshared,
      holds.maps_iff staged.sound (wellKeyed_entries_getElem keyed own)]
    exact ((shared_first_iff keyed own).mp shared).2
  have reached : (stage configs m).ownerAt path configs.length = some j :=
    (shared_iff keyed earlier known).mpr ⟨shared, uncut⟩
  have still : ((stage configs configs.length).place path).read j =
      ((stage configs m).place path).read j := by
    by_cases last : m = configs.length
    · rw [last]
    · have cut : m < configs.length := by omega
      have cuts := ends _ (List.getElem?_eq_getElem cut)
      have sound := (staged_stage keyed known).sound.place path
      exact (agrees_of_cuts keyed earlier cut cuts known (Nat.le_refl _)).1.read_eq sound
  rw [← read_stage keyed known, Layers.at?_read_of_ownerAt reaches, still,
    Layers.at?_read_of_ownerAt reached]

end Stages

/-- A mapping that is taken over as it stands: nothing merged before holds a mapping there. -/
def TakenOver (before : List Value) (config : Value) (path : List Value) : Prop :=
  config.Maps path ∧ ¬ (Value.map (merge before).merged).Maps path

theorem TakenOver.ne_nil {before : List Value} {config : Value} {path : List Value}
    (taken : TakenOver before config path) : path ≠ [] := by
  rintro rfl
  exact taken.2 ⟨_, Value.at?_nil _⟩

variable {before after configs : List Value} {config : Value}

theorem shared_iff_takenOver (keyed : ∀ config ∈ configs, config.WellKeyed)
    (numbered : configs = before ++ config :: after) (path : List Value) :
    (stage configs (before.length + 1)).ownerAt path configs.length = some before.length ↔
      TakenOver before config path := by
  subst numbered
  have known : before.length < (before ++ config :: after).length := by simp
  have earlier : ∀ config ∈ before, config.WellKeyed := fun config member =>
    keyed config (List.mem_append_left _ member)
  have here : (before ++ config :: after)[before.length] = config := by simp
  rw [shared_first_iff keyed known, List.take_left, here, TakenOver, merged_eq earlier, and_comm]
  by_cases nonempty : path = []
  · rw [nonempty]
    exact iff_of_false (fun ⟨_, off⟩ => off ⟨_, Value.at?_nil _⟩) fun ⟨_, off⟩ => off ⟨_, Value.at?_nil _⟩
  · rw [Value.Maps, at?_entries nonempty]
    rfl

/-- What the first configurations make, up to one that puts something else there, stands in the place of a
mapping that is taken over. -/
theorem at?_stage_of_takenOver (keyed : ∀ config ∈ configs, config.WellKeyed)
    (numbered : configs = before ++ config :: after) {path kept dropped : List Value}
    (taken : TakenOver before config path)
    (untaken : ∀ front rest, path = front ++ rest → rest ≠ [] → ¬ TakenOver before config front)
    (split : after = kept ++ dropped) (uncut : ∀ later ∈ kept, ¬ later.Cuts path)
    (ends : ∀ next ∈ dropped.head?, next.Cuts path) :
    (Value.map ((stage configs configs.length).read before.length)).at? path =
      (Value.map (merge (before ++ config :: kept)).merged).at? path := by
  have assembled : configs = (before ++ config :: kept) ++ dropped := by
    rw [numbered, split, List.append_assoc]
    rfl
  have size : (before ++ config :: kept).length = before.length + 1 + kept.length := by
    rw [List.length_append, List.length_cons]
    omega
  have known : (before ++ config :: kept).length ≤ configs.length :=
    List.IsPrefix.length_le ⟨dropped, assembled.symm⟩
  have keyedKept : ∀ other ∈ before ++ config :: kept, other.WellKeyed := fun other member =>
    keyed other (assembled ▸ List.mem_append_left dropped member)
  have taken := (shared_iff_takenOver keyed numbered path).mpr taken
  rw [merged_eq keyedKept, at?_stage_of_shared keyed (by omega) known taken, assembled, List.take_left]
  · intro front key rest same shared
    exact untaken front (key :: rest) same (List.cons_ne_nil _ _)
      ((shared_iff_takenOver keyed numbered front).mp shared)
  · intro k other above below here
    rw [assembled, List.getElem?_append_left below, List.getElem?_append_right (Nat.le_of_lt above),
      List.getElem?_cons, if_neg (by omega)] at here
    exact uncut other (List.mem_of_getElem? here)
  · intro other here
    rw [assembled, List.getElem?_append_right (Nat.le_refl _), Nat.sub_self,
      ← List.head?_eq_getElem?] at here
    exact ends other here

theorem not_takenOver_of_not_map (other : config.isMap = false) (path : List Value) :
    ¬ TakenOver before config path := by
  rintro ⟨⟨entries, reached⟩, off⟩
  cases path with
  | nil => exact off ⟨_, Value.at?_nil _⟩
  | cons key path =>
      rw [Value.at?_cons_of_not_map other] at reached
      contradiction

/-- Merging leaves each configuration as it is outside of the mappings that are taken over from it.
Each of these becomes what is merged in its place, from the configuration and those after it up to
one that puts something else there. The last configuration does not change at all. -/
theorem merge_shares (mergeable : ∀ config ∈ configs, isMergeable config = true)
    (keyed : ∀ config ∈ configs, config.WellKeyed)
    (numbered : configs = before ++ config :: after) :
    ∃ result config', mergeInOrder? configs (List.range configs.length) = some result ∧
      result.configs[before.length]? = some config' ∧
      (∀ path, path ≠ [] → (∀ front rest, path = front ++ rest → ¬ TakenOver before config front) →
        (config'.Maps path ↔ config.Maps path) ∧
        ∀ value, value.isMap = false → (config'.at? path = some value ↔ config.at? path = some value)) ∧
      (∀ path kept dropped, TakenOver before config path →
        (∀ front rest, path = front ++ rest → rest ≠ [] → ¬ TakenOver before config front) →
        after = kept ++ dropped → (∀ later ∈ kept, ¬ later.Cuts path) →
        (∀ next ∈ dropped.head?, next.Cuts path) →
        config'.at? path = (Value.map (merge (before ++ config :: kept)).merged).at? path) ∧
      (after = [] ∨ (∀ path, ¬ TakenOver before config path) → config' = config) := by
  have known : before.length < configs.length := by simp [numbered]
  have here : configs[before.length]? = some config := by simp [numbered]
  cases isMap : config.isMap with
  | false =>
      refine ⟨merge configs, config, mergeInOrder?_eq mergeable,
        getElem?_configs_of_not_map here isMap, fun _ _ _ => ⟨.rfl, fun _ _ => .rfl⟩, ?_, fun _ => rfl⟩
      exact fun path _ _ taken => absurd taken (not_takenOver_of_not_map isMap path)
  | true =>
      obtain ⟨m, rfl⟩ := Value.eq_map_of_isMap isMap
      have own : configs[before.length] = .map m :=
        Option.some.inj ((List.getElem?_eq_getElem known).symm.trans here)
      refine ⟨merge configs, _, mergeInOrder?_eq mergeable, getElem?_configs_of_map here, ?_, ?_, ?_⟩
      · intro path _ untaken
        have stays := read_stage_of_not_shared keyed known
          fun front key rest (same : path = front ++ key :: rest) shared =>
            untaken front (key :: rest) same ((shared_iff_takenOver keyed numbered front).mp shared)
        rwa [own] at stays
      · exact fun path kept dropped taken untaken split uncut ends =>
          at?_stage_of_takenOver keyed numbered taken untaken split uncut ends
      · rintro (ends | untaken)
        · have read := read_stage_succ keyed known
          have size : configs.length = before.length + 1 := by simp [numbered, ends]
          rw [own, ← size] at read
          exact congrArg Value.map read
        · have read := read_stage_of_never_shared keyed known fun path shared =>
            untaken path ((shared_iff_takenOver keyed numbered path).mp shared)
          rw [own] at read
          exact congrArg Value.map read

/-- The second configuration is merged into the mapping that is taken over from the first, which shows the
second one's number from then on. -/
theorem merge_shares_number :
    let single (name : String) (value : Value) : Value := .map [(.string name, value)]
    let first := single "a" (single "x" (.int 1))
    let second := single "a" (single "x" (.int 2))
    ∃ result first', mergeInOrder? [first, second] (List.range 2) = some result ∧
      result.configs[0]? = some first' ∧
      first.at? [.string "a", .string "x"] = some (.int 1) ∧
      first'.at? [.string "a", .string "x"] = some (.int 2) := by
  intro single first second
  have allKeyed : ∀ config ∈ [first, second], config.WellKeyed :=
    List.forall_mem_cons.mpr ⟨.single "a" (.single "x" (.other rfl)),
      List.forall_mem_singleton.mpr (.single "a" (.single "x" (.other rfl)))⟩
  have mergeable : ∀ config ∈ [first, second], isMergeable config = true := by decide
  have numbered : [first, second] = [] ++ first :: [second] := rfl
  obtain ⟨result, first', merged, became, -, shares, -⟩ := merge_shares mergeable allKeyed numbered
  have taken : TakenOver [] first [.string "a"] := ⟨⟨_, rfl⟩, fun ⟨_, reached⟩ => nomatch reached⟩
  have untaken (front rest : List Value) (same : [Value.string "a"] = front ++ rest)
      (ends : rest ≠ []) : ¬ TakenOver [] first front := by
    cases front with
    | nil => exact fun taken => taken.ne_nil rfl
    | cons key front => exact absurd (List.append_eq_nil_iff.mp (List.cons.inj same).2.symm).2 ends
  have uncut : ¬ second.Cuts [.string "a"] := by
    rw [Value.cuts_cons_iff]
    rintro ⟨value, held, leaf | cuts⟩
    · obtain rfl := Option.some.inj held
      contradiction
    · exact Value.not_cuts_nil value cuts
  have place := shares [.string "a"] [second] [] taken untaken rfl
    (List.forall_mem_singleton.mpr uncut) nofun
  have merges : (merge [first, second]).merged = [(.string "a", .map [(.string "x", .int 2)])] := by
    decide +kernel
  refine ⟨result, first', merged, became, rfl, ?_⟩
  rw [show [Value.string "a", .string "x"] = [.string "a"] ++ [.string "x"] from rfl,
    Value.at?_append, place]
  show (Value.at? [.string "a"] (.map (merge [first, second]).merged)).bind _ = _
  rw [merges]
  rfl

end WalCheckpoint.Config
