import WalCheckpoint.Document
import WalCheckpoint.Proofs.Value.Overlay

namespace WalCheckpoint

/-! Documents of which every part stands at one place are values, and laying something over them in
place is laying it over these. -/

namespace Keyed

variable {α β : Type}

/-- Looking at the values of a mapping in another way changes nothing about its keys. -/
theorem map_insert (f : α → β) (key : Value) (value : α) (m : Keyed α) :
    (insert key value m).map (fun entry => (entry.1, f entry.2)) =
      insert key (f value) (m.map fun entry => (entry.1, f entry.2)) := by
  induction m with
  | nil => rfl
  | cons entry rest induction =>
      obtain ⟨key', value'⟩ := entry
      simp only [insert, List.map_cons]
      split <;> simp only [List.map_cons, induction]

end Keyed

namespace Document

theorem eq_ok_alone_iff {read : Except ε Document} {v : Value} :
    read = .ok (.alone v) ↔ read.toOption.bind alone? = some v := by
  cases read with
  | error error => simp [Except.toOption]
  | ok document => simp [Except.toOption, alone?_eq_some_iff]

theorem entryValues_entriesAlone (entries : Mapping) :
    entryValues (entriesAlone entries) = entries := by
  rw [entryValues_eq_map, entriesAlone, List.map_map]
  exact List.map_id entries

theorem entriesAlone_insert (key value : Value) (entries : Mapping) :
    Keyed.insert key (.alone value) (entriesAlone entries) =
      entriesAlone (Keyed.insert key value entries) :=
  (Keyed.map_insert Document.alone key value entries).symm

theorem layValue_entriesAlone (key upper : Value) (lower : Mapping) :
    layValue none key upper (entriesAlone lower) =
      entriesAlone
        (Keyed.insert key (Mapping.overlayValue (Keyed.get? lower key) upper) lower) := by
  rw [← entriesAlone_insert]
  cases upper with
  | map upper =>
      have held : Keyed.get? (entriesAt none (entriesAlone lower)) key =
          (Keyed.get? lower key).map Document.alone := by
        refine (Keyed.get?_map (fun _ => Document.alone) lower key).trans ?_
        rw [Keyed.get?, Option.map_map]
        rfl
      rw [layValue, held]
      cases Keyed.get? lower key <;> rfl
  | _ => rfl

/-- Where every entry stands at one place, what is laid over the entries lies over their values. -/
theorem lay_entriesAlone (upper lower : Mapping) :
    lay none upper (entriesAlone lower) = entriesAlone (lower.overlay upper) := by
  induction upper generalizing lower with
  | nil => rfl
  | cons entry rest induction => rw [lay, layValue_entriesAlone, induction, Mapping.overlay_cons]

theorem entryValues_lay_entriesAlone (upper lower : Mapping) :
    entryValues (lay none upper (entriesAlone lower)) = lower.overlay upper := by
  rw [lay_entriesAlone, entryValues_entriesAlone]

end Document

end WalCheckpoint
