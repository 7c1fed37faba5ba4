import Mathlib.Data.List.Basic
import Mathlib.Data.List.Induction
import WalCheckpoint.Proofs.Tracker.Step

namespace WalCheckpoint

/-! Runs of a tracker: what a run comes to, and what its latest operation of some kind says
about where it ended. -/

/-- The last member of a list with a property stands between those before and those after,
none of which has it. -/
structure Latest (p : α → Prop) (all earlier : List α) (x : α) (later : List α) : Prop where
  split : all = earlier ++ x :: later
  holds : p x
  later_not : ∀ y ∈ later, ¬ p y

theorem Latest.not_nil {p : α → Prop} {x : α} : ¬ Latest p [] earlier x later := by
  intro latest
  simpa using latest.split

theorem Latest.of_concat_holds {p : α → Prop} {x z : α} (hz : p z)
    (latest : Latest p (all ++ [z]) earlier x later) : x = z ∧ later = [] := by
  obtain ⟨split, -, later_not⟩ := latest
  rcases List.eq_nil_or_concat' later with rfl | ⟨front, last, rfl⟩
  · obtain ⟨-, same⟩ := List.append_inj' split rfl
    exact ⟨(List.singleton_inj.mp same).symm, rfl⟩
  · have regrouped : all ++ [z] = (earlier ++ x :: front) ++ [last] := by simpa using split
    obtain ⟨-, same⟩ := List.append_inj' regrouped rfl
    obtain rfl : z = last := List.singleton_inj.mp same
    exact absurd hz (later_not z (by simp))

theorem Latest.of_concat_not {p : α → Prop} {x z : α} (hz : ¬ p z)
    (latest : Latest p (all ++ [z]) earlier x later) :
    ∃ front, later = front ++ [z] ∧ Latest p all earlier x front := by
  obtain ⟨split, holds, later_not⟩ := latest
  rcases List.eq_nil_or_concat' later with rfl | ⟨front, last, rfl⟩
  · obtain ⟨-, same⟩ := List.append_inj' split rfl
    exact absurd (List.singleton_inj.mp same ▸ holds) hz
  · have regrouped : all ++ [z] = (earlier ++ x :: front) ++ [last] := by simpa using split
    obtain ⟨rest, same⟩ := List.append_inj' regrouped rfl
    obtain rfl : z = last := List.singleton_inj.mp same
    exact ⟨front, rfl, rest, holds, fun y member => later_not y (by simp [member])⟩

theorem Latest.exists_or_none (p : α → Prop) (all : List α) :
    (∀ x ∈ all, ¬ p x) ∨ ∃ earlier x later, Latest p all earlier x later := by
  induction all using List.reverseRecOn with
  | nil => exact .inl (by simp)
  | append_singleton front last induction =>
      by_cases hlast : p last
      · exact .inr ⟨front, last, [], rfl, hlast, by simp⟩
      · rcases induction with none | ⟨earlier, x, later, rfl, holds, later_not⟩
        · refine .inl fun y member => ?_
          rcases List.mem_append.mp member with member | member
          · exact none y member
          · exact List.mem_singleton.mp member ▸ hlast
        · refine .inr ⟨earlier, x, later ++ [last], by simp, holds, fun y member => ?_⟩
          rcases List.mem_append.mp member with member | member
          · exact later_not y member
          · exact List.mem_singleton.mp member ▸ hlast

namespace Tracker

theorem run_concat (m : Metrics) (t : Tracker) (before : List Operation)
    (operation : Operation) :
    run m t (before ++ [operation]) =
      let front := run m t before
      let last := front.tracker.apply front.metrics operation
      { last with events := front.events ++ last.events } := by
  simp [run]

theorem run_append (m : Metrics) (t : Tracker) (before later : List Operation) :
    (run m t (before ++ later)).tracker =
        (run (run m t before).metrics (run m t before).tracker later).tracker ∧
      (run m t (before ++ later)).metrics =
        (run (run m t before).metrics (run m t before).tracker later).metrics := by
  induction later using List.reverseRecOn with
  | nil => simp [run]
  | append_singleton middle last induction =>
      rw [← List.append_assoc, run_concat, run_concat]
      simp only
      rw [induction.1, induction.2]
      exact ⟨rfl, rfl⟩

theorem run_cons (m : Metrics) (t : Tracker) (operation : Operation) (rest : List Operation) :
    (run m t (operation :: rest)).tracker =
        (run (t.apply m operation).metrics (t.after operation) rest).tracker ∧
      (run m t (operation :: rest)).metrics =
        (run (t.apply m operation).metrics (t.after operation) rest).metrics := by
  have next := run_append m t [operation] rest
  rwa [← apply_tracker t m operation]

structure Step where
  operation : Operation
  outcome : Outcome

def Step.Succeeded (step : Step) : Prop :=
  step.outcome.failure = none

def step (m : Metrics) (t : Tracker) (operation : Operation) : Step :=
  ⟨operation, t.apply m operation⟩

@[simp] theorem step_operation (m : Metrics) (t : Tracker) (operation : Operation) :
    (step m t operation).operation = operation := rfl

def history (m : Metrics) (t : Tracker) : List Operation → List Step
  | [] => []
  | operation :: rest =>
      let first := step m t operation
      first :: history first.outcome.metrics first.outcome.tracker rest

theorem history_concat (m : Metrics) (t : Tracker) (before : List Operation)
    (operation : Operation) :
    history m t (before ++ [operation]) =
      history m t before ++
        [step (run m t before).metrics (run m t before).tracker operation] := by
  induction before generalizing m t with
  | nil => rfl
  | cons first rest induction =>
      obtain ⟨tracker, metrics⟩ := run_cons m t first rest
      rw [List.cons_append, history, history, induction, List.cons_append, tracker, metrics,
        ← apply_tracker t m first]
      rfl

/-! Invariants of a run, from what each of its steps preserves. -/

section Invariants

variable {m : Metrics} {t : Tracker} {operations : List Operation}

theorem run_induction (Kept : Tracker → Prop)
    (kept : ∀ t operation, Kept t → Kept (t.after operation)) (first : Kept t) :
    Kept (run m t operations).tracker := by
  induction operations using List.reverseRecOn with
  | nil => exact first
  | append_singleton before last induction =>
      rw [run_concat, apply_tracker]
      exact kept _ last induction

variable {p : Step → Prop}

/-- A property that only steps of some kind can end outlasts a run without such steps. -/
theorem run_induction_without (Kept : Tracker → Prop)
    (kept : ∀ m t operation, ¬ p (step m t operation) → Kept t → Kept (t.after operation))
    (first : Kept t) (without : ∀ s ∈ history m t operations, ¬ p s) :
    Kept (run m t operations).tracker := by
  induction operations using List.reverseRecOn with
  | nil => exact first
  | append_singleton before last induction =>
      rw [history_concat] at without
      rw [run_concat, apply_tracker]
      have hlast := without _ List.mem_concat_self
      refine kept _ _ last hlast (induction ?_)
      intro s member
      exact without s (List.mem_append_left _ member)

/-- What the latest step of some kind tells of a tracker is true at the end of the run, where
each step of the kind tells it anew and the steps since keep it true. -/
theorem told_of_latest (Told : Tracker → Step → List Step → Prop)
    (told : ∀ m t operation, p (step m t operation) →
      Told (t.after operation) (step m t operation) [])
    (kept : ∀ m t operation latest since, ¬ p (step m t operation) → Told t latest since →
      Told (t.after operation) latest (since ++ [step m t operation]))
    (hlatest : Latest p (history m t operations) earlier latest since) :
    Told (run m t operations).tracker latest since := by
  induction operations using List.reverseRecOn generalizing since with
  | nil => exact absurd hlatest Latest.not_nil
  | append_singleton before last induction =>
      rw [history_concat] at hlatest
      rw [run_concat, apply_tracker]
      by_cases hlast : p (step (run m t before).metrics (run m t before).tracker last)
      · obtain ⟨rfl, rfl⟩ := hlatest.of_concat_holds hlast
        exact told _ _ last hlast
      · obtain ⟨front, rfl, hfront⟩ := hlatest.of_concat_not hlast
        exact kept _ _ last latest front hlast (induction hfront)

/-- What the steps of some kind write and no other step changes is, at the end of a run, as the
latest of them wrote it, or as it was at first where the run has none. -/
theorem written_by_latest (Written : Tracker → β → Prop) (given : Operation → β) {first : β}
    (written : ∀ m t operation, p (step m t operation) →
      Written (t.after operation) (given operation))
    (kept : ∀ m t operation value, ¬ p (step m t operation) → Written t value →
      Written (t.after operation) value)
    (atFirst : Written t first) :
    (∀ s ∈ history m t operations, ¬ p s) ∧ Written (run m t operations).tracker first ∨
      ∃ earlier latest since, Latest p (history m t operations) earlier latest since ∧
        Written (run m t operations).tracker (given latest.operation) := by
  rcases Latest.exists_or_none p (history m t operations) with
    without | ⟨earlier, latest, since, hlatest⟩
  · left
    refine ⟨without, run_induction_without (fun u => Written u first) ?_ atFirst without⟩
    intro m u operation spares unchanged
    exact kept m u operation first spares unchanged
  · right
    refine ⟨earlier, latest, since, hlatest, told_of_latest
      (fun u latest _ => Written u (given latest.operation)) ?_ ?_ hlatest⟩
    · intro m u operation writes
      exact written m u operation writes
    · intro m u operation latest since spares told
      exact kept m u operation (given latest.operation) spares told

end Invariants

end Tracker

end WalCheckpoint
