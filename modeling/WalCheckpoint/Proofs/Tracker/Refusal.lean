import WalCheckpoint.Proofs.Offset.Refusal
import WalCheckpoint.Proofs.Tracker.Run

namespace WalCheckpoint.Tracker

/-! Loads that are refused. They leave no trace, and the error names what is wrong with the stored
offset. -/

theorem load_refused {stored : Mapping} {error : Offset.ReadError}
    (refused : Offset.read stored = .error error) (m : Metrics) (t : Tracker) :
    t.apply m (.load stored) = ⟨t, m, [], some (.unreadableOffset error)⟩ := by
  rw [apply, load, refused]

/-- At every point of a run a load of values whose numerals can be written fails exactly where
something can be said against a field of them, by an error that blames the first such field, and
changes nothing. -/
theorem run_load_refused (source : Source) (m : Metrics) (operations : List Operation)
    (stored : Mapping) (tellable : ∀ entry ∈ stored, entry.2.isTellable = true) :
    let before := run m (start source) operations
    let after := run m (start source) (operations ++ [.load stored])
    (after.failure ≠ none ↔ ∃ field ∈ Offset.readOrder, Offset.Offends stored field) ∧
      (after.failure ≠ none → ∃ error, after.failure = some (.unreadableOffset error) ∧
        Offset.FirstFault stored Offset.readOrder error ∧
        (error = .missing error.field ↔
          error.field ∈ Offset.requiredKeys ∧ Offset.Lacks stored error.field) ∧
        (error ≠ .missing error.field → stored.field? error.field = some error.value) ∧
        error.message?.isSome = true ∧
        after.tracker = before.tracker ∧ after.metrics = before.metrics ∧
        after.events = before.events) := by
  intro before after
  have last : after =
      { before.tracker.apply before.metrics (.load stored) with
        events := before.events ++
          (before.tracker.apply before.metrics (.load stored)).events } :=
    run_concat m (start source) operations (.load stored)
  rw [← Offset.read_error_iff_offends]
  cases hread : Offset.read stored with
  | ok offset =>
      have succeeded : after.failure = none := by
        rw [last, apply, load_failure, hread]
      refine ⟨⟨fun failed => absurd succeeded failed, fun refused => ?_⟩,
        fun failed => absurd succeeded failed⟩
      obtain ⟨error, refused⟩ := refused
      contradiction
  | error error =>
      rw [load_refused hread, List.append_nil] at last
      have first := Offset.firstFault_of_read hread
      obtain ⟨-, -, -, fault, -⟩ := id first
      refine ⟨⟨fun _ => ⟨error, rfl⟩, fun _ => by rw [last]; exact Option.some_ne_none _⟩,
        fun _ => ⟨error, by rw [last], first, fault.missing_iff, fault.value_eq, ?_, by rw [last],
          by rw [last], by rw [last]⟩⟩
      rw [Offset.message?_isSome]
      exact fault.isTellable tellable

/-- Most fields are wrong at once, and a snapshot runs when the load is refused. -/
theorem run_load_refused_txId :
    let source : Source := ⟨"pg", "shop", by decide, by decide⟩
    let stored := Mapping.ofFields
      [ ("last_snapshot_record", .string "yes"), ("xmin", .float .nan), ("snapshot", .null),
        ("txId", .list [.int 7, .bool true]), ("lsn", .string " 1_0 ") ]
    let after := run .empty (start source) ([.startSnapshot] ++ [.load stored])
    (∀ entry ∈ stored, entry.2.isTellable = true) ∧ after.failure ≠ none ∧
      ∃ error, after.failure = some (.unreadableOffset error) ∧
        Offset.FirstFault stored Offset.readOrder error ∧
        after.tracker.inSnapshot = true := by
  intro source stored after
  have tellable : ∀ entry ∈ stored, entry.2.isTellable = true := by decide +kernel
  obtain ⟨-, refused⟩ := run_load_refused source .empty [.startSnapshot] stored tellable
  have failed : after.failure ≠ none := by decide +kernel
  obtain ⟨error, failure, first, -, -, -, tracker, -⟩ := refused failed
  exact ⟨tellable, failed, error, failure, first, by rw [tracker]; rfl⟩

end WalCheckpoint.Tracker
