import WalCheckpoint.Yaml.Document

namespace WalCheckpoint.Yaml

/-! Keys of mappings in documents. They are values without parts, however the entries are merged. -/

open Keyed (HasScalarKeys)

theorem map_ok {read : Except ε α} {f : α → β} {b : β} (hread : read.map f = .ok b) :
    ∃ a, read = .ok a ∧ f a = b := by
  cases read with
  | error error => contradiction
  | ok a => exact ⟨a, rfl, Except.ok.inj hread⟩

theorem bind_ok {read : Except ε α} {next : α → Except ε β} {b : β}
    (hread : (read >>= next) = .ok b) : ∃ a, read = .ok a ∧ next a = .ok b := by
  cases read with
  | error error => contradiction
  | ok a => exact ⟨a, rfl, hread⟩

theorem Timestamp.isScalar_read {cs : List Char} {v : Value} (hread : read cs = .ok v) :
    v.isScalar = true := by
  simp only [read, dateValue, Fields.value] at hread
  split at hread
  · split at hread
    · exact Except.ok.inj hread ▸ rfl
    · contradiction
  · split at hread
    · split at hread
      · exact Except.ok.inj hread ▸ rfl
      · split at hread
        · exact Except.ok.inj hread ▸ rfl
        · contradiction
    · contradiction
  · contradiction

theorem Binary.isScalar_read {cs : List Char} {v : Value} (hread : read cs = .ok v) :
    v.isScalar = true := by
  rw [read] at hread
  split at hread
  · cases bytes : bytes? .none cs with
    | none => rw [bytes] at hread; contradiction
    | some bs => rw [bytes] at hread; exact Except.ok.inj hread ▸ rfl
  · contradiction

theorem isScalar_ofLoose (text : Text.Loose) : (Value.ofLoose text).isScalar = true := by
  cases text <;> rfl

theorem isScalar_scalarValue {tag : Tag} {text : Text.Loose} {v : Value}
    (hread : scalarValue tag text = .ok v) : v.isScalar = true := by
  rw [scalarValue.eq_def] at hread
  split at hread
  · exact Except.ok.inj hread ▸ rfl
  · exact Except.ok.inj hread ▸ isScalar_ofLoose _
  · next word =>
      cases known : boolWord? word with
      | none => rw [known] at hread; contradiction
      | some b => rw [known] at hread; exact Except.ok.inj hread ▸ rfl
  · contradiction
  · obtain ⟨n, -, rfl⟩ := map_ok hread
    rfl
  · obtain ⟨x, -, rfl⟩ := map_ok hread
    rfl
  · contradiction
  · contradiction
  · exact Timestamp.isScalar_read hread
  · contradiction
  · exact Binary.isScalar_read hread
  · contradiction

namespace Builder

variable {b b' : Builder}

theorem hasScalarKeys_keyed (entries : List (Scalar × α)) : HasScalarKeys (keyed entries) :=
  List.foldlRecOn entries _ .nil fun _ held entry _ => held.insert entry.1.property

theorem isScalar_valueOfMapping {number : Nat} {tag : Tag} {v : Value} (none : b.values = [])
    (hread : b.valueOfMapping number tag = .ok (v, b')) : v.isScalar = true := by
  rw [valueOfMapping, none] at hread
  obtain ⟨text, -, hread⟩ := bind_ok hread
  split at hread
  · contradiction
  · obtain ⟨v', hvalue, same⟩ := bind_ok hread
    obtain ⟨rfl, -⟩ := Prod.mk.inj (Except.ok.inj same)
    exact isScalar_scalarValue hvalue

theorem isScalar_make {node : Node} {v : Value} (none : b.values = [])
    (hread : b.make node = .ok (.value v, b')) : v.isScalar = true := by
  simp only [make] at hread
  split at hread
  · split at hread <;> exact absurd hread nofun
  · split at hread
    · split at hread
      · obtain ⟨v', hvalue, same⟩ := map_ok hread
        obtain ⟨same, -⟩ := Prod.mk.inj same
        exact Item.value.inj same ▸ isScalar_scalarValue hvalue
      · obtain ⟨⟨v', b''⟩, hvalue, same⟩ := map_ok hread
        obtain ⟨same, -⟩ := Prod.mk.inj same
        exact Item.value.inj same ▸ isScalar_valueOfMapping none hvalue
      · contradiction
    · contradiction

theorem hasScalarKeys_whole {root : Item} (scalar : ∀ v, root = .value v → v.isScalar = true)
    {m : Mapping} (held : (b.whole root).value = .map m) : HasScalarKeys m := by
  cases root with
  | value v =>
      have isMap : v = .map m := held
      exact absurd (scalar v rfl) (isMap ▸ nofun)
  | collection number =>
      rw [whole, document.eq_def] at held
      dsimp only at held
      split at held
      · rw [Document.value, Document.entryValues_eq_map] at held
        exact Value.map.inj held ▸ (hasScalarKeys_keyed _).map
      · next other =>
          split at held
          · next filled => exact absurd filled (other _)
          all_goals contradiction

end Builder

theorem hasScalarKeys_document {root : Node} {document : Document} {m : Mapping}
    (hread : root.document = .ok document) (held : document.value = .map m) :
    HasScalarKeys m := by
  obtain ⟨⟨item, b⟩, made, hread⟩ := bind_ok hread
  obtain ⟨filled, -, hread⟩ := bind_ok hread
  have scalar : ∀ v, item = .value v → v.isScalar = true := by
    rintro v rfl
    exact Builder.isScalar_make rfl made
  have value : (filled.whole item).value = .map m := by
    obtain rfl := Except.ok.inj hread
    split at held <;> exact held
  exact Builder.hasScalarKeys_whole scalar value

theorem hasScalarKeys_read {bytes : ByteArray} {document : Document} {m : Mapping}
    (hread : read bytes = .ok document) (held : document.value = .map m) : HasScalarKeys m := by
  rw [read] at hread
  split at hread
  · contradiction
  · obtain ⟨node, -, hread⟩ := bind_ok hread
    cases node with
    | none => exact absurd (Except.ok.inj hread ▸ held) nofun
    | some root => exact hasScalarKeys_document hread held

/-- The reader of documents in YAML. -/
def standard : Reader where
  read := read
  hasScalarKeys _ _ _ hread held := hasScalarKeys_read hread held

end WalCheckpoint.Yaml
