import WalCheckpoint.Proofs.Offset.Denoted
import WalCheckpoint.Proofs.Tracker.Step

namespace WalCheckpoint.Tracker

open Offset (Denotes Resumable Respelled Stands)

/-! Loads that go through. They take over what the stored offset stands for, however it is spelled
and whatever the tracker held before. -/

theorem load_of_stands {stored : Mapping} {o : Offset} (stands : Stands stored o) (m : Metrics)
    (t : Tracker) : (t.load stored m).failure = none ∧ (t.load stored m).tracker = t.withOffset o := by
  rw [load, Offset.read_eq_ok_iff.mpr stands]
  exact ⟨rfl, rfl⟩

theorem load_succeeds_iff (t : Tracker) (m : Metrics) (stored : Mapping) :
    (t.load stored m).failure = none ↔ ∃ o, Stands stored o := by
  rw [load_failure]
  cases hread : Offset.read stored with
  | ok o => exact ⟨fun _ => ⟨o, Offset.read_eq_ok_iff.mp hread⟩, fun _ => rfl⟩
  | error error =>
      refine iff_of_false nofun ?_
      rintro ⟨o, stands⟩
      rw [Offset.read_eq_ok_iff.mpr stands] at hread
      contradiction

/-- A load goes through exactly where the stored offset can be resumed from. The tracker then has what
that offset stands for and the table it had before, and so has every other tracker that loads the
offset in another spelling. -/
theorem load_takes_denoted (t : Tracker) (m : Metrics) (stored : Mapping) :
    let outcome := t.load stored m
    (outcome.failure = none ↔ Resumable stored) ∧
      (outcome.failure = none →
        Stands stored outcome.tracker.offset ∧ outcome.tracker.source = t.source ∧
          outcome.tracker.schema = t.schema ∧ outcome.tracker.table = t.table) ∧
      ∀ t' m' stored', Respelled stored stored' →
        ((Tracker.load stored' m' t').failure = none ↔ outcome.failure = none) ∧
          (outcome.failure = none →
            (Tracker.load stored' m' t').tracker.offset = outcome.tracker.offset) := by
  intro outcome
  have succeeds : outcome.failure = none ↔ ∃ o, Stands stored o := load_succeeds_iff t m stored
  refine ⟨succeeds.trans Offset.exists_stands_iff, fun succeeded => ?_, fun t' m' stored' respelled => ?_⟩
  · obtain ⟨o, stands⟩ := succeeds.mp succeeded
    have taken : outcome.tracker = t.withOffset o := (load_of_stands stands m t).2
    rw [taken, withOffset_offset]
    exact ⟨stands, rfl, rfl, rfl⟩
  · rw [succeeds, load_succeeds_iff]
    refine ⟨exists_congr fun o => respelled.stands_iff.symm, ?_⟩
    rintro ⟨o, stands⟩
    have taken : outcome.tracker = t.withOffset o := (load_of_stands stands m t).2
    have taken' := (load_of_stands (respelled.stands_iff.mp stands) m' t').2
    rw [taken, taken', withOffset_offset, withOffset_offset]

/-- A numeral with white space of its own, a sign, an underscore and digits of two scripts, and a float
stand for the numbers that are given as such in another spelling. -/
theorem load_takes_denoted_respelled :
    let source : Source := ⟨"pg", "shop", by decide, by decide⟩
    let stored := Mapping.ofFields
      [ ("lsn", .string "\u2003+1_0\u0663\u00A0"), ("txId", .float ⟨0x401C000000000000⟩),
        ("xmin", .null), ("snapshot", .bool false) ]
    let stored' := Mapping.ofFields
      [("snapshot", .bool false), ("txId", .string "07"), ("xmin", .null), ("lsn", .int 103)]
    let outcome := (start source).load stored .empty
    Resumable stored ∧ Respelled stored stored' ∧
      outcome.tracker.position = ⟨some 103, some 7, none, none⟩ ∧
      ((start source).load stored' .empty).failure = none ∧
      ((start source).load stored' .empty).tracker.offset = outcome.tracker.offset := by
  intro source stored stored' outcome
  have denotes {v : Value} {n : Int} (read : Offset.integral? v = some n) : Denotes v n :=
    Offset.integral?_eq_some_iff.mp read
  have respelled : Respelled stored stored' := by
    refine ⟨?_, rfl, rfl⟩
    refine List.forall_mem_cons.mpr ⟨.inr ⟨_, _, 103, rfl, rfl, denotes (by decide +kernel), .int⟩,
      List.forall_mem_cons.mpr ⟨.inr ⟨_, _, 7, rfl, rfl, denotes (by decide +kernel),
        denotes (by decide +kernel)⟩, ?_⟩⟩
    exact List.forall_mem_cons.mpr ⟨.inl rfl, List.forall_mem_singleton.mpr (.inl rfl)⟩
  obtain ⟨resumes, -, spelled⟩ := load_takes_denoted (start source) .empty stored
  have succeeded : outcome.failure = none := by decide +kernel
  obtain ⟨succeeds, same⟩ := spelled (start source) .empty stored' respelled
  exact ⟨resumes.mp succeeded, respelled, by decide +kernel, succeeds.mpr succeeded, same succeeded⟩

end WalCheckpoint.Tracker
