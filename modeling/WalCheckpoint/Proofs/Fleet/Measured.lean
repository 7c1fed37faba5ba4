import WalCheckpoint.Proofs.Fleet.Run
import WalCheckpoint.Proofs.Tracker.Measured

namespace WalCheckpoint.Fleet

open Tracker (Step account latest?)

/-! Measurements account for the steps of all trackers, however they take turns. -/

/-- The source of the tracker that an operation makes. -/
def Operation.made? : Operation → Option Source
  | .start _ server database => (Source.make server database).toOption
  | _ => none

def Operation.makes (server : String) (operation : Operation) : Bool :=
  operation.made?.any fun source => source.server = server

/-- The step that an operation has a tracker take. -/
def stepOf? (fleet : Fleet) : Operation → Option Step
  | .start _ _ _ => none
  | .run name operation =>
      (fleet.tracker? name).map fun t => Tracker.step fleet.metrics t operation
  | .loadOffsetOf name other => do
      let source ← fleet.tracker? other
      let t ← fleet.tracker? name
      return Tracker.step fleet.metrics t (.load source.offset.toMapping)

/-- All that an operation can do: nothing, make a tracker, or have one take a step. -/
inductive Turn (fleet : Fleet) (operation : Operation) : Prop
  | idle (unmade : operation.made? = none) (untaken : fleet.stepOf? operation = none)
      (same : (fleet.apply operation).fleet = fleet)
  | make (name : String) (source : Source) (made : operation.made? = some source)
      (untaken : fleet.stepOf? operation = none)
      (put : (fleet.apply operation).fleet =
        ⟨put name (.start source) fleet.trackers, fleet.metrics⟩)
  | take (name : String) (t : Tracker) (request : Tracker.Operation)
      (held : fleet.tracker? name = some t) (unmade : operation.made? = none)
      (taken : fleet.stepOf? operation = some (Tracker.step fleet.metrics t request))
      (put : (fleet.apply operation).fleet =
        ⟨put name (t.after request) fleet.trackers, (t.apply fleet.metrics request).metrics⟩)

theorem turn (fleet : Fleet) (operation : Operation) : Turn fleet operation := by
  cases operation with
  | start name server database =>
      cases named : Source.make server database with
      | error error =>
          exact .idle (by rw [Operation.made?, named]; rfl) rfl (by simp only [apply, named])
      | ok source =>
          exact .make name source (by rw [Operation.made?, named]; rfl) rfl
            (by simp only [apply, named])
  | run name request =>
      cases held : fleet.tracker? name with
      | none => exact .idle rfl (by simp [stepOf?, held]) (by simp only [apply, runOn, held])
      | some t =>
          exact .take name t request held rfl (by simp [stepOf?, held])
            (by simp only [apply, runOn, held, Tracker.apply_tracker])
  | loadOffsetOf name other =>
      cases found : fleet.tracker? other with
      | none => exact .idle rfl (by simp [stepOf?, found]) (by simp only [apply, found])
      | some source =>
          cases held : fleet.tracker? name with
          | none =>
              exact .idle rfl (by simp [stepOf?, found, held])
                (by simp only [apply, found, runOn, held])
          | some t =>
              exact .take name t (.load source.offset.toMapping) held rfl
                (by simp [stepOf?, found, held])
                (by simp only [apply, found, runOn, held, Tracker.apply_tracker])

/-- The steps of all trackers in the order they were taken. -/
def history (fleet : Fleet) : List Operation → List Step
  | [] => []
  | operation :: rest =>
      (fleet.stepOf? operation).toList ++ history (fleet.apply operation).fleet rest

theorem run_cons (fleet : Fleet) (operation : Operation) (rest : List Operation) :
    (fleet.run (operation :: rest)).fleet = ((fleet.apply operation).fleet.run rest).fleet := by
  induction rest using List.reverseRecOn with
  | nil => rfl
  | append_singleton before last induction =>
      rw [← List.cons_append, run_concat, run_concat]
      simp only [induction]

theorem history_concat (fleet : Fleet) (before : List Operation) (operation : Operation) :
    fleet.history (before ++ [operation]) =
      fleet.history before ++ ((fleet.run before).fleet.stepOf? operation).toList := by
  induction before generalizing fleet with
  | nil => simp [history, run]
  | cons first rest induction =>
      rw [List.cons_append, history, history, induction, run_cons, List.append_assoc]

/-- The steps that trackers of one server take. -/
def historyOf (server : String) (operations : List Operation) : List Step :=
  (empty.history operations).filter fun s => s.server = server

section Measured

variable {operations : List Operation}

theorem historyOf_concat (server : String) (before : List Operation) (operation : Operation) :
    historyOf server (before ++ [operation]) =
      historyOf server before ++
        ((empty.run before).fleet.stepOf? operation).toList.filter fun s => s.server = server := by
  rw [historyOf, history_concat, List.filter_append, historyOf]

theorem run_distinct : (empty.run operations).fleet.metrics.Distinct := by
  induction operations using List.reverseRecOn with
  | nil => exact Metrics.Distinct.empty
  | append_singleton before last distinct =>
      rw [run_concat]
      rcases (empty.run before).fleet.turn last with
        ⟨-, -, same⟩ | ⟨name, source, -, -, put⟩ | ⟨name, t, request, -, -, -, put⟩
      · simpa only [same] using distinct
      · simpa only [put] using distinct
      · simpa only [put] using Tracker.distinct_apply distinct

theorem run_ofServer (fits : ∀ s ∈ empty.history operations, s.FitsGauges) (server : String) :
    (empty.run operations).fleet.metrics.ofServer server =
      account (historyOf server operations) := by
  induction operations using List.reverseRecOn with
  | nil => rfl
  | append_singleton before last induction =>
      rw [history_concat] at fits
      have measured := induction fun s member => fits s (List.mem_append_left _ member)
      rw [run_concat, historyOf_concat]
      rcases (empty.run before).fleet.turn last with
        ⟨-, untaken, same⟩ | ⟨name, source, -, untaken, put⟩ | ⟨name, t, request, -, -, taken, put⟩
      · simpa [untaken, same] using measured
      · simpa [untaken, put] using measured
      · have fits := fits _ (List.mem_append_right _ (by rw [taken]; exact List.mem_singleton_self _))
        simp only [put, taken, Tracker.ofServer_apply fits, Option.toList_some]
        by_cases own : server = t.source.server
        · subst own
          simp [Tracker.account_concat, measured]
        · simp [own, Ne.symm own, measured]

/-! A server with one tracker. -/

/-- A tracker of the server goes by the name. -/
structure Holds (fleet : Fleet) (server name : String) (t : Tracker) : Prop where
  held : fleet.tracker? name = some t
  source : t.source.server = server

variable {server : String}

theorem Holds.of_put {trackers : List (String × Tracker)} {m m' : Metrics} {name name' : String}
    {t t' : Tracker} (holds : Holds ⟨put name t trackers, m⟩ server name' t') :
    name' = name ∧ t' = t ∨ name' ≠ name ∧ Holds ⟨trackers, m'⟩ server name' t' := by
  obtain ⟨held, source⟩ := holds
  rw [tracker?_put] at held
  by_cases same : name' = name
  · rw [if_pos same] at held
    exact .inl ⟨same, (Option.some.inj held).symm⟩
  · rw [if_neg same] at held
    exact .inr ⟨same, held, source⟩

theorem historyOf_concat_untaken {before : List Operation} {last : Operation}
    (untaken : (empty.run before).fleet.stepOf? last = none) :
    historyOf server (before ++ [last]) = historyOf server before := by
  simp [historyOf_concat, untaken]

theorem historyOf_concat_taken {before : List Operation} {last : Operation} {m : Metrics}
    {t : Tracker} {request : Tracker.Operation}
    (taken : (empty.run before).fleet.stepOf? last = some (Tracker.step m t request)) :
    historyOf server (before ++ [last]) =
      if t.source.server = server then historyOf server before ++ [Tracker.step m t request]
      else historyOf server before := by
  by_cases own : t.source.server = server <;> simp [historyOf_concat, taken, own]

theorem absent_of_unmade (unmade : operations.countP (Operation.makes server) = 0) :
    (∀ name t, ¬ (empty.run operations).fleet.Holds server name t) ∧
      historyOf server operations = [] := by
  induction operations using List.reverseRecOn with
  | nil =>
      refine ⟨fun name t holds => ?_, rfl⟩
      exact Option.some_ne_none _ holds.held.symm
  | append_singleton before last induction =>
      rw [Tracker.countP_concat, Nat.add_eq_zero_iff] at unmade
      obtain ⟨absent, silent⟩ := induction unmade.1
      rw [run_concat]
      rcases (empty.run before).fleet.turn last with
        ⟨-, untaken, same⟩ | ⟨name, source, made, untaken, put⟩ |
          ⟨name, t, request, held, -, taken, put⟩
      · rw [historyOf_concat_untaken untaken]
        exact ⟨by simpa only [same] using absent, silent⟩
      · rw [historyOf_concat_untaken untaken]
        refine ⟨fun name' t' holds => ?_, silent⟩
        simp only [put] at holds
        rcases holds.of_put with ⟨-, rfl⟩ | ⟨-, before⟩
        · have makes : last.makes server = true := by
            rw [Operation.makes, made]
            exact decide_eq_true holds.source
          simp [makes] at unmade
        · exact absent name' t' before
      · have other : t.source.server ≠ server := fun own => absent name t ⟨held, own⟩
        rw [historyOf_concat_taken taken, if_neg other]
        refine ⟨fun name' t' holds => ?_, silent⟩
        simp only [put] at holds
        rcases holds.of_put with ⟨-, rfl⟩ | ⟨-, before⟩
        · exact other ((t.after_source request ▸ holds.source))
        · exact absent name' t' before

/-- Only one name has a tracker of the server, and what is shown is what that tracker is in. -/
structure Sole (fleet : Fleet) (server : String) (shown : Option Bool) : Prop where
  unique : ∀ name name' t t', fleet.Holds server name t → fleet.Holds server name' t' →
    name = name'
  shown : ∀ name t, fleet.Holds server name t → shown.getD false = t.inSnapshot

theorem Sole.put {fleet : Fleet} {m : Metrics} {name : String} {t : Tracker}
    {shown : Option Bool} (only : ∀ name' t', fleet.Holds server name' t' → name' = name)
    (now : shown.getD false = t.inSnapshot) :
    Sole ⟨put name t fleet.trackers, m⟩ server shown := by
  have named {name' t'} (holds : Holds ⟨Fleet.put name t fleet.trackers, m⟩ server name' t') :
      name' = name ∧ t' = t := by
    rcases holds.of_put with here | ⟨elsewhere, before⟩
    · exact here
    · exact absurd (only name' t' before) elsewhere
  refine ⟨fun name' name'' t' t'' holds holds' => ?_, fun name' t' holds => ?_⟩
  · exact (named holds).1.trans (named holds').1.symm
  · rw [(named holds).2, now]

theorem Sole.put_other {fleet : Fleet} {m : Metrics} {name : String} {t : Tracker}
    {shown : Option Bool} (sole : fleet.Sole server shown) (other : t.source.server ≠ server) :
    Sole ⟨Fleet.put name t fleet.trackers, m⟩ server shown := by
  have before {name' t'} (holds : Holds ⟨Fleet.put name t fleet.trackers, m⟩ server name' t') :
      fleet.Holds server name' t' := by
    rcases holds.of_put with ⟨-, rfl⟩ | ⟨-, before⟩
    · exact absurd holds.source other
    · exact before
  exact ⟨fun name' name'' t' t'' holds holds' => sole.unique _ _ _ _ (before holds) (before holds'),
    fun name' t' holds => sole.shown name' t' (before holds)⟩

theorem sole_of_made_once (once : operations.countP (Operation.makes server) ≤ 1) :
    (empty.run operations).fleet.Sole server
      (latest? Step.settled? (historyOf server operations)) := by
  induction operations using List.reverseRecOn with
  | nil =>
      refine ⟨fun name name' t t' holds => ?_, fun name t holds => ?_⟩
      · exact absurd holds.held.symm (Option.some_ne_none _)
      · exact absurd holds.held.symm (Option.some_ne_none _)
  | append_singleton before last induction =>
      rw [Tracker.countP_concat] at once
      have sole := induction (by omega)
      rw [run_concat]
      rcases (empty.run before).fleet.turn last with
        ⟨-, untaken, same⟩ | ⟨name, source, made, untaken, put⟩ |
          ⟨name, t, request, held, -, taken, put⟩
      · rw [historyOf_concat_untaken untaken]
        simpa only [same] using sole
      · rw [historyOf_concat_untaken untaken]
        simp only [put]
        by_cases own : source.server = server
        · have makes : last.makes server = true := by
            rw [Operation.makes, made]
            exact decide_eq_true own
          rw [makes, Bool.toNat_true] at once
          have unmade : before.countP (Operation.makes server) = 0 := by omega
          obtain ⟨absent, silent⟩ := absent_of_unmade unmade
          exact .put (fun name' t' holds => absurd holds (absent name' t')) (by rw [silent]; rfl)
        · exact sole.put_other own
      · rw [historyOf_concat_taken taken]
        simp only [put]
        by_cases own : t.source.server = server
        · have now := sole.shown name t ⟨held, own⟩
          rw [if_pos own, Tracker.latest?_concat]
          refine .put (fun name' t' holds => sole.unique _ _ _ _ holds ⟨held, own⟩) ?_
          rw [Option.getD_or, now, Tracker.settled?_getD]
        · rw [if_neg own]
          exact sole.put_other (by rwa [Tracker.after_source])

end Measured

/-- What the samples show of a server, by the steps of its trackers. -/
structure Accounted (samples : List Metrics.Sample) (server : String) (steps : List Step) :
    Prop where
  positionUpdates : ∀ x, ⟨"updates", server, some "position", x⟩ ∈ samples ↔
    steps.countP Step.isUpdate ≠ 0 ∧ x = Metrics.count (steps.countP Step.isUpdate)
  timestampUpdates : ∀ x, ⟨"updates", server, some "timestamp", x⟩ ∈ samples ↔
    steps.countP Step.isTimestampUpdate ≠ 0 ∧
      x = Metrics.count (steps.countP Step.isTimestampUpdate)
  checkpointsLoaded : ∀ x, ⟨"loaded", server, none, x⟩ ∈ samples ↔
    steps.countP Step.isLoad ≠ 0 ∧ x = Metrics.count (steps.countP Step.isLoad)
  lsn : ∀ x, ⟨"lsn", server, none, x⟩ ∈ samples ↔
    ∃ n, latest? Step.lsn? steps = some n ∧ x = Binary64.ofSignedRatio n 1
  commitSeconds : ∀ x, ⟨"commit_ts", server, none, x⟩ ∈ samples ↔
    ∃ n, latest? Step.commitMicros? steps = some n ∧
      x = Binary64.ofSignedRatio n Metrics.microsPerSecond
  snapshot : ∀ x, ⟨"snapshot", server, none, x⟩ ∈ samples ↔
    ∃ b, latest? Step.settled? steps = some b ∧ x = Metrics.count (if b then 1 else 0)

theorem accounted_of_ofServer {m : Metrics} (distinct : m.Distinct) {server : String}
    {steps : List Step} (measured : m.ofServer server = account steps) :
    Accounted m.samples server steps := by
  have shown (sample : Metrics.Sample) : sample ∈ m.samples ↔
      sample ∈ Metrics.serverSamples sample.server (m.ofServer sample.server) :=
    Metrics.mem_samples distinct sample
  constructor
  all_goals
    intro x
    simp [shown, measured, account, Metrics.serverSamples, @eq_comm _ x]

/-- The samples that all trackers leave, where all numbers are of 64 bits: counters have the
steps of each kind, gauges show the latest that was given, and the snapshot gauge shows what
the latest start, end or load left its tracker in. Where a server has one tracker, that is what
the tracker is in. -/
theorem run_accounted (operations : List Operation)
    (fits : ∀ s ∈ empty.history operations, s.FitsGauges) :
    let final := (empty.run operations).fleet
    ∀ server,
      Accounted final.metrics.samples server (historyOf server operations) ∧
      (operations.countP (Operation.makes server) ≤ 1 →
        ∀ name t, final.tracker? name = some t → t.source.server = server →
          ∀ x, ⟨"snapshot", server, none, x⟩ ∈ final.metrics.samples →
            x = Metrics.count (if t.inSnapshot then 1 else 0)) := by
  intro final server
  have accounted : Accounted final.metrics.samples server (historyOf server operations) :=
    accounted_of_ofServer run_distinct (run_ofServer fits server)
  refine ⟨accounted, fun once name t held source x present => ?_⟩
  have shown := (sole_of_made_once once).shown name t ⟨held, source⟩
  obtain ⟨b, latest, rfl⟩ := (accounted.snapshot x).mp present
  rw [latest, Option.getD_some] at shown
  rw [shown]

/-- Two trackers of one server, one of which loads the offset of the other, and the one tracker
of a second server. -/
theorem run_accounted_shared_server :
    let operations : List Operation :=
      [ .start "a" (some "pg") (some "shop"),
        .start "b" (some "pg") (some "stock"),
        .run "b" .startSnapshot,
        .run "a" (.update (some 100) none (some 7) none none),
        .loadOffsetOf "b" "a",
        .start "c" (some "replica") (some "shop"),
        .run "c" .startSnapshot ]
    let samples := (empty.run operations).fleet.metrics.samples
    (∀ s ∈ empty.history operations, s.FitsGauges) ∧
      (∀ x, ⟨"updates", "pg", some "position", x⟩ ∈ samples ↔ x = Metrics.count 1) ∧
      (∀ x, ⟨"loaded", "pg", none, x⟩ ∈ samples ↔ x = Metrics.count 1) ∧
      (∀ x, ⟨"lsn", "pg", none, x⟩ ∈ samples ↔ x = Binary64.ofSignedRatio 100 1) ∧
      (∀ x, ⟨"snapshot", "pg", none, x⟩ ∈ samples ↔ x = Metrics.count 0) ∧
      (operations.countP (Operation.makes "replica") = 1) ∧
      ∀ x, ⟨"snapshot", "replica", none, x⟩ ∈ samples → x = Metrics.count 1 := by
  intro operations samples
  have fits : ∀ s ∈ empty.history operations, s.FitsGauges := by decide +kernel
  have shared := (run_accounted operations fits "pg").1
  refine ⟨fits, fun x => ?_, fun x => ?_, fun x => ?_, fun x => ?_, by decide +kernel, ?_⟩
  · rw [shared.positionUpdates]
    have counted : (historyOf "pg" operations).countP Step.isUpdate = 1 := by decide +kernel
    simp [counted]
  · rw [shared.checkpointsLoaded]
    have counted : (historyOf "pg" operations).countP Step.isLoad = 1 := by decide +kernel
    simp [counted]
  · rw [shared.lsn]
    have latest : latest? Step.lsn? (historyOf "pg" operations) = some 100 := by decide +kernel
    simp [latest]
  · rw [shared.snapshot]
    have latest : latest? Step.settled? (historyOf "pg" operations) = some false := by
      decide +kernel
    simp [latest]
  · let t : Tracker :=
      ⟨⟨"replica", "shop", by decide, by decide⟩, .unknown, true, some false, none, none⟩
    have held : (empty.run operations).fleet.tracker? "c" = some t := by decide +kernel
    exact (run_accounted operations fits "replica").2 (by decide +kernel) "c" t held rfl

end WalCheckpoint.Fleet
