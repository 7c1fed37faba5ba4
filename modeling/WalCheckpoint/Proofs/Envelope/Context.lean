import WalCheckpoint.Proofs.Envelope.Contract
import WalCheckpoint.Proofs.Tracker.Run

namespace WalCheckpoint.Tracker

/-! The table that an envelope names. Its schema and its name are each the last one that was given,
whatever came since, and stand beside the offset without covering any of it. -/

/-- A step supplies a part of a table where it names the part by a text that is not empty, whether
the step goes through or fails. -/
def Step.Supplies (part : TableId → Option String) (s : Step) : Prop :=
  ∃ name, s.operation.table?.bind part = some name ∧ name ≠ ""

/-- The name that the latest step to supply a part gave it. -/
def LastSupplied (part : TableId → Option String) (steps : List Step) (name : String) : Prop :=
  ∃ earlier latest since, Latest (Step.Supplies part) steps earlier latest since ∧
    latest.operation.table?.bind part = some name

theorem stickyName_given {name : String} (filled : name ≠ "") (known : Option String) :
    stickyName known (some name) = some name := by
  simp [stickyName, filled]

theorem stickyName_isSome {known : Option String} (isSome : known.isSome = true)
    (given : Option String) : (stickyName known given).isSome = true := by
  cases given with
  | none => exact isSome
  | some name =>
      simp only [stickyName]
      split
      · exact isSome
      · rfl

/-- A part of a table that is unknown at first and then the last one given. -/
structure Keeps (part : TableId → Option String) (known : Tracker → Option String) : Prop where
  unknown : ∀ source, known (start source) = none
  sticky : ∀ t operation,
    known (after t operation) = stickyName (known t) (operation.table?.bind part)

theorem keeps_schema : Keeps TableId.schema Tracker.schema where
  unknown _ := rfl
  sticky t operation := (t.after_names operation).1

theorem keeps_table : Keeps TableId.table Tracker.table where
  unknown _ := rfl
  sticky t operation := (t.after_names operation).2

namespace Keeps

variable {part : TableId → Option String} {known : Tracker → Option String}
variable {m : Metrics} {t : Tracker} {operation : Operation}

theorem after_of_supplies (keeps : Keeps part known) (supplies : (step m t operation).Supplies part) :
    known (t.after operation) = operation.table?.bind part := by
  obtain ⟨name, given, filled⟩ := supplies
  rw [step_operation] at given
  rw [keeps.sticky, given, stickyName_given filled]

theorem after_of_not_supplies (keeps : Keeps part known)
    (spares : ¬ (step m t operation).Supplies part) : known (t.after operation) = known t := by
  rw [keeps.sticky]
  cases given : operation.table?.bind part with
  | none => rfl
  | some name =>
      have blank : name = "" := by
        by_contra filled
        exact spares ⟨name, given, filled⟩
      rw [blank]
      rfl

/-- At the end of a run a part is known by the name last supplied, or not at all. -/
theorem run (keeps : Keeps part known) (source : Source) (m : Metrics)
    (operations : List Operation) :
    let steps := history m (start source) operations
    let final := (run m (start source) operations).tracker
    (∀ s ∈ steps, ¬ s.Supplies part) ∧ known final = none ∨
      ∃ name, LastSupplied part steps name ∧ known final = some name := by
  intro steps final
  have written : (∀ s ∈ steps, ¬ s.Supplies part) ∧ known final = none ∨
      ∃ earlier latest since, Latest (Step.Supplies part) steps earlier latest since ∧
        known final = latest.operation.table?.bind part := by
    refine written_by_latest (fun u name => known u = name)
      (fun operation => operation.table?.bind part) ?_ ?_ (keeps.unknown source)
    · intro m u operation supplies
      exact keeps.after_of_supplies supplies
    · intro m u operation name spares told
      exact (keeps.after_of_not_supplies spares).trans told
  rcases written with without | ⟨earlier, latest, since, hlatest, told⟩
  · exact .inl without
  · obtain ⟨name, given, filled⟩ := hlatest.holds
    exact .inr ⟨name, ⟨earlier, latest, since, hlatest, given⟩, told.trans given⟩

theorem run_eq_none_iff (keeps : Keeps part known) (source : Source) (m : Metrics)
    (operations : List Operation) :
    known (Tracker.run m (start source) operations).tracker = none ↔
      ∀ s ∈ history m (start source) operations, ¬ s.Supplies part := by
  rcases keeps.run source m operations with ⟨without, unknown⟩ | ⟨name, supplied, told⟩
  · exact iff_of_true unknown without
  · refine iff_of_false (by simp [told]) fun without => ?_
    obtain ⟨earlier, latest, since, hlatest, -⟩ := supplied
    exact without latest (by simp [hlatest.split]) hlatest.holds

theorem lastSupplied_of_run (keeps : Keeps part known) {source : Source} {m : Metrics}
    {operations : List Operation} {name : String}
    (told : known (Tracker.run m (start source) operations).tracker = some name) :
    LastSupplied part (history m (start source) operations) name := by
  rcases keeps.run source m operations with ⟨-, unknown⟩ | ⟨name', supplied, told'⟩
  · rw [unknown] at told
    contradiction
  · obtain rfl := Option.some.inj (told'.symm.trans told)
    exact supplied

theorem run_isSome (keeps : Keeps part known) (isSome : (known t).isSome = true) (m : Metrics)
    (operations : List Operation) : (known (Tracker.run m t operations).tracker).isSome = true := by
  refine run_induction (fun u => (known u).isSome = true) ?_ isSome
  intro u operation told
  rw [keeps.sticky]
  exact stickyName_isSome told _

end Keeps

/-! An envelope beside the offset in it. -/

def nameKeys : List String := [serverKey, databaseKey, schemaKey, tableKey]

def nameFields (source : Source) (schema table : String) : List (String × Value) :=
  [ (serverKey, .string source.server), (databaseKey, .string source.database),
    (schemaKey, .string schema), (tableKey, .string table) ]

section Names

variable (o : Offset) (source : Source) (schema table : String)

theorem map_fst_nameFields : (nameFields source schema table).map Prod.fst = nameKeys := rfl

theorem mem_nameKeys {field : String × Value} (member : field ∈ nameFields source schema table) :
    field.1 ∈ nameKeys := by
  rw [← map_fst_nameFields source schema table]
  exact List.mem_map_of_mem member

theorem not_mem_nameKeys {field : String × Value} (member : field ∈ o.fields) :
    field.1 ∉ nameKeys := by
  have apart : ∀ name ∈ Offset.keys, name ∉ nameKeys := by decide
  exact apart field.1 (Offset.name_mem_keys member).1

theorem filter_mem_nameKeys :
    (nameFields source schema table ++ o.fields).filter (fun field => field.1 ∈ nameKeys) =
      nameFields source schema table := by
  have names : (nameFields source schema table).filter (fun field => field.1 ∈ nameKeys) =
      nameFields source schema table :=
    List.filter_eq_self.mpr fun field member => decide_eq_true (mem_nameKeys _ _ _ member)
  have others : o.fields.filter (fun field => field.1 ∈ nameKeys) = [] :=
    List.filter_eq_nil_iff.mpr fun field member => by simpa using not_mem_nameKeys o member
  rw [List.filter_append, names, others, List.append_nil]

theorem filter_not_mem_nameKeys :
    (nameFields source schema table ++ o.fields).filter (fun field => field.1 ∉ nameKeys) =
      o.fields := by
  have names : (nameFields source schema table).filter (fun field => field.1 ∉ nameKeys) = [] :=
    List.filter_eq_nil_iff.mpr fun field member => by simpa using mem_nameKeys _ _ _ member
  have others : o.fields.filter (fun field => field.1 ∉ nameKeys) = o.fields :=
    List.filter_eq_self.mpr fun field member => decide_eq_true (not_mem_nameKeys o member)
  rw [List.filter_append, names, others, List.nil_append]

theorem nodup_names : ((nameFields source schema table ++ o.fields).map Prod.fst).Nodup := by
  rw [List.map_append, map_fst_nameFields, List.nodup_append]
  refine ⟨by decide, o.fields_distinct, ?_⟩
  intro name isName name' held same
  subst same
  obtain ⟨field, member, rfl⟩ := List.mem_map.mp held
  exact not_mem_nameKeys o member isName

end Names

theorem envelope_error_iff (t : Tracker) (error : EnvelopeError) :
    t.envelope = .error error ↔
      error = .noTableContext t.source.server ∧ (t.schema = none ∨ t.table = none) := by
  rw [envelope]
  cases t.schema with
  | none => simp [eq_comm]
  | some schema => cases t.table <;> simp [eq_comm]

theorem exists_envelope {t : Tracker} (schema : t.schema.isSome = true)
    (table : t.table.isSome = true) : ∃ fields, t.envelope = .ok fields := by
  obtain ⟨schema, hschema⟩ := Option.isSome_iff_exists.mp schema
  obtain ⟨table, htable⟩ := Option.isSome_iff_exists.mp table
  rw [envelope, hschema, htable]
  exact ⟨_, rfl⟩

/-- An envelope cannot be had before both parts of a table were supplied, by whatever steps, and can
be had ever after. It holds the two names of the source, of each part of the table the one that was
supplied last, and besides these four exactly the offset, no name twice. -/
theorem envelope_of_run (source : Source) (m : Metrics) (operations : List Operation) :
    let t := (run m (start source) operations).tracker
    let steps := history m (start source) operations
    (∀ error, t.envelope = .error error ↔
      error = .noTableContext source.server ∧
        ((∀ s ∈ steps, ¬ s.Supplies TableId.schema) ∨ ∀ s ∈ steps, ¬ s.Supplies TableId.table)) ∧
    ∀ fields, t.envelope = .ok fields →
      (∀ later, ∃ fields',
        (run m (start source) (operations ++ later)).tracker.envelope = .ok fields') ∧
      (∃ schema table, LastSupplied TableId.schema steps schema ∧
        LastSupplied TableId.table steps table ∧
        fields.filter (fun field => field.1 ∈ nameKeys) = nameFields source schema table) ∧
      fields.filter (fun field => field.1 ∉ nameKeys) = t.offset.fields ∧
      (fields.map Prod.fst).Nodup := by
  intro t steps
  have same : t.source = source :=
    run_induction (fun u => u.source = source) (fun u operation => (u.after_source operation).trans)
      rfl
  refine ⟨fun error => ?_, fun fields told => ?_⟩
  · rw [envelope_error_iff, same, keeps_schema.run_eq_none_iff, keeps_table.run_eq_none_iff]
  · obtain ⟨schema, table, hschema, htable, rfl⟩ := Envelope.envelope_ok told
    have named : (nameFields t.source schema table ++ t.offset.fields).filter
        (fun field => field.1 ∈ nameKeys) = nameFields source schema table := by
      rw [filter_mem_nameKeys, same]
    refine ⟨fun later => ?_, ⟨schema, table, keeps_schema.lastSupplied_of_run hschema,
      keeps_table.lastSupplied_of_run htable, named⟩, filter_not_mem_nameKeys _ _ _ _,
      nodup_names _ _ _ _⟩
    rw [(run_append m (start source) operations later).1]
    exact exists_envelope (keeps_schema.run_isSome (Option.isSome_of_mem hschema) _ later)
      (keeps_table.run_isSome (Option.isSome_of_mem htable) _ later)

/-- The schema comes from an update that is too large to be measured and the table from another one;
neither a load nor empty names change them. -/
theorem envelope_of_run_in_parts :
    let source : Source := ⟨"pg", "shop", by decide, by decide⟩
    let unmeasurable : Operation :=
      .update (some (Nat.pow 10 400)) none (some 3) (some ⟨some "public", some ""⟩) none
    let operations : List Operation :=
      [ unmeasurable, .updateTimestamp none (some ⟨none, some "orders"⟩),
        .load (Mapping.ofFields [("lsn", .int 7), ("txId", .int 8)]),
        .updateTimestamp (some 9) (some ⟨some "", none⟩) ]
    let t := (run .empty (start source) operations).tracker
    ((start source).apply .empty unmeasurable).failure.isSome = true ∧
      ∃ fields, t.envelope = .ok fields ∧
        fields.filter (fun field => field.1 ∈ nameKeys) = nameFields source "public" "orders" ∧
        fields.filter (fun field => field.1 ∉ nameKeys) = t.offset.fields ∧
        ∀ later, ∃ fields', (run .empty (start source) (operations ++ later)).tracker.envelope =
          .ok fields' := by
  intro source unmeasurable operations t
  have envelope : t.envelope = .ok (nameFields source "public" "orders" ++
      [("ts_usec", .int 9), ("txId", .int 8), ("lsn", .int 7)]) := by
    decide +kernel
  obtain ⟨-, told⟩ := envelope_of_run source .empty operations
  obtain ⟨later, -, rest, -⟩ := told _ envelope
  exact ⟨by decide +kernel, _, envelope, by decide +kernel, rest, later⟩

end WalCheckpoint.Tracker
