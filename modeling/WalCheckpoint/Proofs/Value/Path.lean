import WalCheckpoint.Proofs.Value.Keyed
import WalCheckpoint.Value.Overlay

namespace WalCheckpoint

/-! What values hold along paths of keys, and what becomes of it where mappings are laid over each
other. -/

namespace Value

def isMap : Value → Bool
  | .map _ => true
  | _ => false

/-- What is at the end of a path, where every key on the way leads from a mapping. -/
def at? : List Value → Value → Option Value
  | [], v => some v
  | key :: path, .map entries => (Keyed.get? entries key).bind (at? path)
  | _ :: _, _ => none

/-- A path leads to a mapping. -/
def Maps (v : Value) (path : List Value) : Prop :=
  ∃ entries, v.at? path = some (.map entries)

/-- A path, or the first part of it, leads to something else than a mapping. -/
def Cuts (v : Value) (path : List Value) : Prop :=
  ∃ front rest other, path = front ++ rest ∧ front ≠ [] ∧ v.at? front = some other ∧
    other.isMap = false

/-- Every mapping, at any depth, has keys that are such and differ. -/
inductive WellKeyed : Value → Prop
  | map {entries : Mapping} (distinct : Keyed.Distinct entries)
      (within : ∀ entry ∈ entries, WellKeyed entry.2) : WellKeyed (.map entries)
  | other {v : Value} (other : v.isMap = false) : WellKeyed v

variable {v : Value} {entries : Mapping} {key : Value} {path : List Value}

@[simp] theorem at?_nil (v : Value) : v.at? [] = some v := by
  rw [at?]

@[simp] theorem at?_map_cons (entries : Mapping) (key : Value) (path : List Value) :
    (Value.map entries).at? (key :: path) = (Keyed.get? entries key).bind (at? path) := rfl

theorem at?_cons_of_not_map (other : v.isMap = false) (key : Value) (path : List Value) :
    v.at? (key :: path) = none := by
  cases v <;> first | contradiction | rfl

theorem eq_map_of_isMap (isMap : v.isMap = true) : ∃ entries, v = .map entries := by
  cases v <;> first | contradiction | exact ⟨_, rfl⟩

theorem at?_append (v : Value) (front rest : List Value) :
    v.at? (front ++ rest) = (v.at? front).bind (at? rest) := by
  induction front generalizing v with
  | nil => rfl
  | cons key front induction =>
      cases v <;> first | rfl | skip
      next entries =>
        rw [List.cons_append, at?_map_cons, at?_map_cons, Option.bind_assoc]
        exact congrArg _ (funext induction)

theorem not_cuts_nil (v : Value) : ¬ v.Cuts [] := by
  rintro ⟨front, rest, other, same, nonempty, -⟩
  exact nonempty (List.append_eq_nil_iff.mp same.symm).1

theorem cuts_cons_iff :
    (Value.map entries).Cuts (key :: path) ↔
      ∃ value, Keyed.get? entries key = some value ∧ (value.isMap = false ∨ value.Cuts path) := by
  constructor
  · rintro ⟨front, rest, other, same, nonempty, reached, otherwise⟩
    cases front with
    | nil => exact absurd rfl nonempty
    | cons key' front =>
        obtain ⟨rfl, rfl⟩ := List.cons.inj same
        obtain ⟨value, held, reached⟩ := Option.bind_eq_some_iff.mp reached
        refine ⟨value, held, ?_⟩
        cases front with
        | nil => exact .inl (Option.some.inj reached ▸ otherwise)
        | cons next front => exact .inr ⟨_, rest, other, rfl, List.cons_ne_nil _ _, reached, otherwise⟩
  · rintro ⟨value, held, otherwise | ⟨front, rest, other, rfl, -, reached, otherwise⟩⟩
    · exact ⟨[key], path, value, rfl, List.cons_ne_nil _ _, by rw [at?_map_cons, held]; rfl, otherwise⟩
    · exact ⟨key :: front, rest, other, rfl, List.cons_ne_nil _ _,
        by rw [at?_map_cons, held]; exact reached, otherwise⟩

theorem Cuts.append (cuts : v.Cuts path) (sub : List Value) : v.Cuts (path ++ sub) := by
  obtain ⟨front, rest, other, rfl, nonempty, reached, leaf⟩ := cuts
  exact ⟨front, rest ++ sub, other, List.append_assoc _ _ _, nonempty, reached, leaf⟩

theorem Cuts.not_maps (cuts : v.Cuts path) : ¬ v.Maps path := by
  obtain ⟨front, rest, other, rfl, -, reached, leaf⟩ := cuts
  rintro ⟨entries, further⟩
  rw [at?_append, reached, Option.bind_some] at further
  cases rest with
  | nil =>
      obtain rfl := Option.some.inj ((at?_nil other).symm.trans further)
      contradiction
  | cons key rest =>
      rw [at?_cons_of_not_map leaf] at further
      contradiction

theorem WellKeyed.distinct (keyed : (Value.map entries).WellKeyed) : Keyed.Distinct entries := by
  cases keyed with
  | map distinct => exact distinct
  | other other => contradiction

theorem WellKeyed.within (keyed : (Value.map entries).WellKeyed) {value : Value}
    (held : Keyed.get? entries key = some value) : value.WellKeyed := by
  obtain ⟨held, member, -⟩ := Keyed.mem_of_get? held
  cases keyed with
  | map _ within => exact within _ member
  | other other => contradiction

theorem WellKeyed.single (name : String) (within : v.WellKeyed) :
    (Value.map [(.string name, v)]).WellKeyed :=
  .map ⟨List.forall_mem_singleton.mpr (by simp), List.pairwise_singleton _ _⟩
    (List.forall_mem_singleton.mpr within)

theorem WellKeyed.of_at? (keyed : v.WellKeyed) {w : Value} (reached : v.at? path = some w) :
    w.WellKeyed := by
  induction path generalizing v with
  | nil => exact Option.some.inj reached ▸ keyed
  | cons key path induction =>
      cases isMap : v.isMap with
      | false =>
          rw [at?_cons_of_not_map isMap] at reached
          contradiction
      | true =>
          obtain ⟨entries, rfl⟩ := eq_map_of_isMap isMap
          obtain ⟨inner, held, reached⟩ := Option.bind_eq_some_iff.mp reached
          exact induction (keyed.within held) reached

end Value

namespace Mapping

open Value

variable {lower upper : Mapping} {path : List Value}

theorem overlay_eq_lay (lower upper : Mapping) :
    overlay lower upper = Keyed.lay overlayValue lower upper := by
  induction upper generalizing lower with
  | nil => rfl
  | cons entry rest induction => exact induction _

theorem get?_overlay (distinct : Keyed.Distinct upper) (key : Value) :
    Keyed.get? (overlay lower upper) key =
      (Keyed.get? upper key).elim (Keyed.get? lower key) fun value =>
        some (overlayValue (Keyed.get? lower key) value) := by
  rw [overlay_eq_lay]
  exact Keyed.get?_lay _ _ distinct key

theorem overlayValue_of_not_map {value : Value} (other : value.isMap = false)
    (lower : Option Value) : overlayValue lower value = value := by
  cases value <;> first | contradiction | rfl

theorem overlayValue_map_of_maps {lower upper : Mapping} :
    overlayValue (some (.map lower)) (.map upper) = .map (overlay lower upper) := rfl

theorem overlayValue_map_of_not_map {lower : Option Value} (other : ∀ l, lower ≠ some (.map l))
    (upper : Mapping) : overlayValue lower (.map upper) = .map upper := by
  rw [overlayValue.eq_def]
  dsimp only
  split
  · next l => exact absurd rfl (other l)
  · rfl

/-- A path leads to what it does in the upper mapping, or in the lower one where the upper has
nothing there and does not cut it off. Two mappings at the end of it count as alike. -/
theorem at?_overlay_iff (keyed : (Value.map upper).WellKeyed) {P : Value → Prop}
    (alike : ∀ entries entries', P (.map entries) → P (.map entries')) :
    (∃ w, (Value.map (overlay lower upper)).at? path = some w ∧ P w) ↔
      (∃ w, (Value.map upper).at? path = some w ∧ P w) ∨
        ((Value.map upper).at? path = none ∧ ¬ (Value.map upper).Cuts path) ∧
          ∃ w, (Value.map lower).at? path = some w ∧ P w := by
  induction path generalizing lower upper with
  | nil =>
      rw [at?_nil, at?_nil, or_iff_left (by simp)]
      simp only [Option.some.injEq, exists_eq_left']
      exact ⟨alike _ _, alike _ _⟩
  | cons key path induction =>
      rw [cuts_cons_iff, at?_map_cons, at?_map_cons, at?_map_cons, get?_overlay keyed.distinct]
      cases held : Keyed.get? upper key with
      | none => simp
      | some value =>
          cases isMap : value.isMap with
          | false =>
              rw [Option.elim_some, overlayValue_of_not_map isMap]
              refine (or_iff_left ?_).symm
              rintro ⟨⟨-, uncut⟩, -⟩
              exact uncut ⟨value, rfl, .inl isMap⟩
          | true =>
              obtain ⟨upper', rfl⟩ := eq_map_of_isMap isMap
              have cuts : (∃ v, some (Value.map upper') = some v ∧ (v.isMap = false ∨ v.Cuts path)) ↔
                  (Value.map upper').Cuts path := by
                simp [Value.isMap]
              rw [cuts]
              by_cases maps : ∃ lower', Keyed.get? lower key = some (.map lower')
              · obtain ⟨lower', below⟩ := maps
                rw [below]
                exact induction (keyed.within held)
              · have apart (l : Mapping) : Keyed.get? lower key ≠ some (.map l) :=
                  fun below => maps ⟨l, below⟩
                rw [Option.elim_some, overlayValue_map_of_not_map apart]
                refine (or_iff_left ?_).symm
                rintro ⟨⟨absent, -⟩, w, reached, -⟩
                cases path with
                | nil => contradiction
                | cons next path =>
                    obtain ⟨v, below, reached⟩ := Option.bind_eq_some_iff.mp reached
                    have other : v.isMap = false := by
                      cases v <;> first | rfl | exact absurd below (apart _)
                    rw [at?_cons_of_not_map other] at reached
                    contradiction

theorem maps_iff {v : Value} : v.Maps path ↔ ∃ w, v.at? path = some w ∧ w.isMap = true := by
  constructor
  · rintro ⟨entries, reached⟩
    exact ⟨_, reached, rfl⟩
  · rintro ⟨w, reached, isMap⟩
    obtain ⟨entries, rfl⟩ := eq_map_of_isMap isMap
    exact ⟨entries, reached⟩

theorem isMap_of_not_cuts {w : Value} (uncut : ¬ (Value.map upper).Cuts path)
    (reached : (Value.map upper).at? path = some w) : w.isMap = true := by
  cases path with
  | nil => exact Option.some.inj reached ▸ rfl
  | cons key path =>
      refine eq_true_of_ne_false fun other => uncut ?_
      exact ⟨key :: path, [], w, (List.append_nil _).symm, List.cons_ne_nil _ _, reached, other⟩

theorem maps_overlay_iff (keyed : (Value.map upper).WellKeyed) :
    (Value.map (overlay lower upper)).Maps path ↔
      (Value.map upper).Maps path ∨ ¬ (Value.map upper).Cuts path ∧ (Value.map lower).Maps path := by
  rw [maps_iff, at?_overlay_iff keyed fun _ _ isMap => isMap, ← maps_iff, ← maps_iff]
  constructor
  · exact Or.imp_right fun ⟨⟨_, uncut⟩, maps⟩ => ⟨uncut, maps⟩
  · rintro (maps | ⟨uncut, maps⟩)
    · exact .inl maps
    · cases reached : (Value.map upper).at? path with
      | none => exact .inr ⟨⟨rfl, uncut⟩, maps⟩
      | some w => exact .inl (maps_iff.mpr ⟨w, reached, isMap_of_not_cuts uncut reached⟩)

theorem at?_overlay_eq_some_iff (keyed : (Value.map upper).WellKeyed) {other : Value}
    (leaf : other.isMap = false) :
    (Value.map (overlay lower upper)).at? path = some other ↔
      (Value.map upper).at? path = some other ∨
        ((Value.map upper).at? path = none ∧ ¬ (Value.map upper).Cuts path) ∧
          (Value.map lower).at? path = some other := by
  have alike (entries entries' : Mapping) (same : Value.map entries = other) :
      Value.map entries' = other := by
    rw [← same] at leaf
    contradiction
  have bound (v : Value) : v.at? path = some other ↔ ∃ w, v.at? path = some w ∧ w = other := by
    simp
  rw [bound, bound, bound]
  exact at?_overlay_iff keyed alike

end Mapping

end WalCheckpoint
