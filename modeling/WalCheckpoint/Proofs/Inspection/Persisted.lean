import WalCheckpoint.Proofs.Inspection.Content
import WalCheckpoint.Proofs.Inspection.Report
import WalCheckpoint.Proofs.Yaml.FlowReading
import WalCheckpoint.Proofs.Yaml.Keys

namespace WalCheckpoint

open Json.Layout (Blank)

/-! Offsets that are kept as JSON text and read back as stored offsets. -/

namespace Text

theorem joinLineEnds_eq {l : List Char} (unreturned : '\r' ∉ l) : joinLineEnds l = l := by
  induction l with
  | nil => rfl
  | cons c rest induction =>
      rw [List.mem_cons, not_or] at unreturned
      have other : c ≠ '\r' := Ne.symm unreturned.1
      cases rest with
      | nil => rw [joinLineEnds, if_neg other]
      | cons d rest => rw [joinLineEnds, if_neg other, induction unreturned.2]

theorem decode?_toUTF8 {text : String} (unreturned : '\r' ∉ text.toList) :
    decode? text.toUTF8 = some text := by
  have decoded : String.fromUTF8? text.toUTF8 = some text := by
    rw [String.fromUTF8?, String.toUTF8_eq_toByteArray, dif_pos text.isValidUTF8]
    rfl
  rw [decode?, decoded, Option.map_some, joinLineEnds_eq unreturned, String.ofList_toList]

end Text

theorem Files.bytes_of_entry {files : Files} {path : String} {bytes : ByteArray}
    (held : files.entry path = .ok (.file bytes)) : files.bytes path = .ok bytes := by
  rw [Files.bytes, held]

/-- A mapping that is kept as JSON text is read from its bytes as that mapping. -/
theorem Yaml.read_write {fields : List (String × Value)}
    (plain : ∀ field ∈ fields, PlainField field) (distinct : (fields.map Prod.fst).Nodup)
    (layout : Json.Layout) {blanks : List Char} (blank : Blank blanks) :
    Yaml.read (String.ofList
        (Json.write layout 0 (.map (Mapping.ofFields fields)) ++ blanks)).toUTF8 =
      .ok (.alone (.map (Mapping.ofFields fields))) := by
  have unreturned : '\r' ∉ (String.ofList
      (Json.write layout 0 (.map (Mapping.ofFields fields)) ++ blanks)).toList := fun member => by
    rw [String.toList_ofList] at member
    exact ne_return_of_isLineChar (List.all_eq_true.mp
      (all_isLineChar_mapping plain layout blank) _ member) rfl
  rw [Yaml.read, Text.decode?_toUTF8 unreturned]
  exact readText_write plain distinct layout blank

namespace Offset

theorem flat_of_mem_fields {o : Offset}
    (short : ∀ n ∈ o.position.numbers, n.natAbs < Nat.pow 10 Text.Numeral.digitLimit)
    {field : String × Value} (member : field ∈ o.fields) : Yaml.Flat field.2 := by
  rcases value_of_mem_fields member with ⟨n, known, number⟩ | ⟨b, flag⟩
  · rw [number]
    exact .int (short n known)
  · rw [flag]
    cases b with
    | none => exact .null
    | some b => exact .bool b

theorem plainField_of_mem_fields {o : Offset}
    (short : ∀ n ∈ o.position.numbers, n.natAbs < Nat.pow 10 Text.Numeral.digitLimit)
    {field : String × Value} (member : field ∈ o.fields) : Yaml.PlainField field := by
  have named : field.1 ∈ keys := o.names_sublist.subset (List.mem_map_of_mem member)
  have word : ∀ name ∈ keys, name.toList.all Yaml.isWordChar = true := by decide
  have brief : ∀ name ∈ keys, name.length ≤ 1000 := by decide
  exact ⟨List.all_eq_true.mp (word _ named), brief _ named, flat_of_mem_fields short member⟩

end Offset

namespace StoredOffset

/-- How an offset is kept as JSON text: on one line, or as in a report, with an indentation and its
names in order. -/
inductive Form where
  | line
  | report
  deriving DecidableEq, Repr

namespace Form

def layout : Form → Json.Layout
  | .line => .line
  | .report => .indented 2

def value (o : Offset) : Form → Value
  | .line => .map o.toMapping
  | .report => Report.sortedFields o.fields

def text (o : Offset) (form : Form) : String :=
  String.ofList (Json.write form.layout 0 (form.value o))

theorem value_eq (o : Offset) (form : Form) :
    ∃ fields, fields.Perm o.fields ∧ form.value o = .map (Mapping.ofFields fields) := by
  cases form with
  | line => exact ⟨o.fields, .refl _, rfl⟩
  | report => exact ⟨_, List.mergeSort_perm _ _, rfl⟩

end Form

theorem unknownKeys_ofFields {fields : List (String × Value)}
    (known : ∀ field ∈ fields, field.1 ∈ Offset.keys) :
    unknownKeys (Mapping.ofFields fields) = [] := by
  refine List.filter_eq_nil_iff.mpr fun key member => ?_
  rw [Mapping.ofFields, List.map_map, List.mem_map] at member
  obtain ⟨field, member, rfl⟩ := member
  rw [Bool.not_eq_true, Bool.not_eq_false', List.any_eq_true]
  exact ⟨field.1, known field member, by simp⟩

theorem read_of_fields {files : Files} {path : String} {fields : List (String × Value)}
    (plain : ∀ field ∈ fields, Yaml.PlainField field) (distinct : (fields.map Prod.fst).Nodup)
    (known : ∀ field ∈ fields, field.1 ∈ Offset.keys) {layout : Json.Layout} {blanks : List Char}
    (blank : Blank blanks)
    (held : files.entry path = .ok (.file (String.ofList
      (Json.write layout 0 (.map (Mapping.ofFields fields)) ++ blanks)).toUTF8)) :
    read Yaml.standard files path = ⟨[], .ok (Mapping.ofFields fields)⟩ := by
  rw [read_eq_outcome, content_of_read (Files.bytes_of_entry held)
    (Yaml.read_write plain distinct layout blank) rfl]
  exact ofMapping_of_known (unknownKeys_ofFields known) path

/-- A tracker's offset that is kept in a file is read back as it is, without a warning, and a
tracker loads what was read as it loads the offset itself. -/
theorem read_persisted {t : Tracker}
    (short : ∀ n ∈ t.position.numbers, n.natAbs < Nat.pow 10 Text.Numeral.digitLimit)
    {files : Files} {path : String} {form : Form} {blanks : List Char}
    (blank : ∀ c ∈ blanks, c = ' ' ∨ c = '\n')
    (held : files.entry path =
      .ok (.file (form.text t.offset ++ String.ofList blanks).toUTF8)) :
    ∃ stored, read Yaml.standard files path = ⟨[], .ok stored⟩ ∧
      stored.Perm t.offset.toMapping ∧
      (form = .line → stored = t.offset.toMapping) ∧
      (∀ name, stored.field? name = t.offset.toMapping.field? name) ∧
      ∀ (loading : Tracker) (m : Metrics),
        loading.load stored m = loading.load t.offset.toMapping m := by
  obtain ⟨fields, perm, written⟩ := form.value_eq t.offset
  have plain : ∀ field ∈ fields, Yaml.PlainField field := fun field member =>
    Offset.plainField_of_mem_fields short (perm.mem_iff.mp member)
  have distinct : (fields.map Prod.fst).Nodup :=
    (perm.map Prod.fst).nodup_iff.mpr t.offset.fields_distinct
  have known : ∀ field ∈ fields, field.1 ∈ Offset.keys := fun field member =>
    t.offset.names_sublist.subset (List.mem_map_of_mem (perm.mem_iff.mp member))
  have same (name : String) :
      (Mapping.ofFields fields).field? name = t.offset.toMapping.field? name := by
    rw [Offset.toMapping, Mapping.field?_ofFields, Mapping.field?_ofFields,
      lookup_eq_of_perm perm distinct]
  rw [Form.text, written, ← String.ofList_append] at held
  refine ⟨Mapping.ofFields fields, read_of_fields plain distinct known blank held, perm.map _, ?_,
    same, fun loading m => ?_⟩
  · rintro rfl
    exact (Value.map.inj written).symm
  · rw [Tracker.load, Tracker.load, Offset.read_congr fun name _ => same name]

theorem read_persisted_midSnapshot :
    read Yaml.standard [("offset.json", .file ("\x7b\"ts_usec\": 0, \"txId\": -3, " ++
        "\"lsn\": 9007199254740993, \"snapshot\": true, " ++
        "\"last_snapshot_record\": null\x7d\n").toUTF8)] "offset.json" =
      ⟨[], .ok [(.string "ts_usec", .int 0), (.string "txId", .int (-3)),
        (.string "lsn", .int 9007199254740993), (.string "snapshot", .bool true),
        (.string "last_snapshot_record", .null)]⟩ := by
  have small : ∀ n ∈ Position.numbers ⟨some 9007199254740993, some (-3), none, some 0⟩,
      n.natAbs < 10 ^ 18 := by decide
  have written : Form.line.text ⟨⟨some 9007199254740993, some (-3), none, some 0⟩, some ⟨none⟩⟩ ++
      String.ofList ['\n'] =
        "\x7b\"ts_usec\": 0, \"txId\": -3, " ++ "\"lsn\": 9007199254740993, \"snapshot\": true, " ++
          "\"last_snapshot_record\": null\x7d\n" := by decide +kernel
  have held : Files.entry [("offset.json", .file (Form.line.text ⟨⟨some 9007199254740993, some (-3),
      none, some 0⟩, some ⟨none⟩⟩ ++ String.ofList ['\n']).toUTF8)] "offset.json" =
        .ok (.file (Form.line.text ⟨⟨some 9007199254740993, some (-3), none, some 0⟩,
          some ⟨none⟩⟩ ++ String.ofList ['\n']).toUTF8) := rfl
  obtain ⟨stored, found, -, same, -⟩ := read_persisted
    (t := { Tracker.start ⟨"pg1", "inventory", by decide, by decide⟩ with
      position := ⟨some 9007199254740993, some (-3), none, some 0⟩, inSnapshot := true })
    (fun n known => (Value.isTellable_int_iff n).mp (Value.isTellable_of_natAbs_lt (small n known)))
    (fun c member => .inr (List.mem_singleton.mp member)) held
  rw [← written, found, same rfl]
  rfl

end StoredOffset

end WalCheckpoint
