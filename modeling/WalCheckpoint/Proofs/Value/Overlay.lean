import WalCheckpoint.Proofs.Offset.RoundTrip
import WalCheckpoint.Proofs.Value.Path

namespace WalCheckpoint

/-! What a mapping holds under a name once something is put in or laid over it. -/

theorem Value.sameKey_string_iff {key : Value} {name : String} :
    key.sameKey (.string name) = true ↔ key = .string name := by
  cases key <;> simp [sameKey, number?]

namespace Keyed

variable {m : Keyed α} {key : Value} {value : α}

theorem get?_cons (key : Value) (value : α) (rest : Keyed α) (name : String) :
    get? ((key, value) :: rest) (.string name) =
      if key = .string name then some value else get? rest (.string name) := by
  rw [get?_entry]
  simp only [Value.sameKey_string_iff]

theorem get?_insert (m : Keyed α) (name other : String) (value : α) :
    get? (insert (.string name) value m) (.string other) =
      if other = name then some value else get? m (.string other) := by
  rw [get?_put]
  simp only [Value.sameKey_string, beq_iff_eq, @eq_comm _ name]

end Keyed

namespace Mapping

variable {lower : Mapping} {fields : List (String × Value)}

theorem overlay_ofFields_cons (name : String) (value : Value) :
    overlay lower (ofFields ((name, value) :: fields)) =
      overlay (Keyed.insert (.string name) (overlayValue (lower.field? name) value) lower)
        (ofFields fields) := rfl

theorem distinct_ofFields (distinct : (fields.map Prod.fst).Nodup) :
    Keyed.Distinct (ofFields fields) := by
  have keys : Keyed.keys (ofFields fields) = (fields.map Prod.fst).map .string := by
    rw [Keyed.keys, ofFields, List.map_map, List.map_map]
    rfl
  constructor <;> rw [keys]
  · intro key member
    obtain ⟨name, -, rfl⟩ := List.mem_map.mp member
    exact beq_self_eq_true name
  · rw [List.pairwise_map]
    exact distinct.imp fun apart => beq_false_of_ne apart

/-- What is laid over a name counts together with what is there. -/
theorem field?_overlay (distinct : (fields.map Prod.fst).Nodup) (name : String) :
    (overlay lower (ofFields fields)).field? name =
      (fields.lookup name).elim (lower.field? name) fun value =>
        some (overlayValue (lower.field? name) value) := by
  rw [← field?_ofFields]
  exact get?_overlay (distinct_ofFields distinct) (.string name)

theorem forall_key_overlay {P : Value → Prop} (keys : ∀ entry ∈ lower, P entry.1)
    (more : ∀ field ∈ fields, P (.string field.1)) :
    ∀ entry ∈ overlay lower (ofFields fields), P entry.1 := by
  induction fields generalizing lower with
  | nil => exact keys
  | cons field rest induction =>
      obtain ⟨here, later⟩ := List.forall_mem_cons.mp more
      exact induction (Keyed.forall_key_insert keys here) later

end Mapping

end WalCheckpoint
