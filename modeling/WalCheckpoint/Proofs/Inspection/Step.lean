import WalCheckpoint.Inspection.Run
import WalCheckpoint.Proofs.Log.Telling

namespace WalCheckpoint.Inspection

/-! What the steps of a run yield. It depends on how the log is set up, and on nothing else that was
done before. -/

/-- From a log that is set up in one way a step always has the same result, and leaves the log set
up in the same way. -/
def Yields (step : Step α) (before : Log.Sink) (result : Except Breakdown α)
    (after : Log.Sink) : Prop :=
  ∀ progress : Progress, progress.sink = before →
    (step.run.run progress).1 = result ∧ (step.run.run progress).2.sink = after

variable {before between after : Log.Sink}

theorem yields_pure (a : α) : Yields (pure a) before (.ok a) before :=
  fun _ same => ⟨rfl, same⟩

theorem yields_throw (breakdown : Breakdown) :
    Yields (throw breakdown : Step α) before (.error breakdown) before :=
  fun _ same => ⟨rfl, same⟩

theorem yields_modify {f : Progress → Progress}
    (changed : ∀ progress, progress.sink = before → (f progress).sink = after) :
    Yields (modify f : Step Unit) before (.ok ()) after :=
  fun progress same => ⟨rfl, changed progress same⟩

theorem run_bind (step : Step α) (next : α → Step β) (progress : Progress) :
    (step >>= next).run.run progress =
      match step.run.run progress with
      | (.ok a, progress) => (next a).run.run progress
      | (.error breakdown, progress) => (.error breakdown, progress) := by
  rw [ExceptT.run_bind, StateT.run_bind]
  obtain ⟨result, progress⟩ := step.run.run progress
  cases result <;> rfl

theorem Yields.bind {step : Step α} {next : α → Step β} {a : α} {result : Except Breakdown β}
    (first : Yields step before (.ok a) between) (second : Yields (next a) between result after) :
    Yields (step >>= next) before result after := by
  intro progress same
  obtain ⟨value, sink⟩ := first progress same
  rw [run_bind]
  generalize step.run.run progress = outcome at value sink
  obtain ⟨result, progress⟩ := outcome
  obtain rfl : result = .ok a := value
  exact second progress sink

theorem Yields.bind_error {step : Step α} {next : α → Step β} {breakdown : Breakdown}
    (first : Yields step before (.error breakdown) after) :
    Yields (step >>= next) before (.error breakdown) after := by
  intro progress same
  obtain ⟨value, sink⟩ := first progress same
  rw [run_bind]
  generalize step.run.run progress = outcome at value sink
  obtain ⟨result, progress⟩ := outcome
  obtain rfl : result = .error breakdown := value
  exact ⟨rfl, sink⟩

theorem run_tryCatch (step : Step α) (handler : Breakdown → Step α) (progress : Progress) :
    (tryCatch step handler).run.run progress =
      match step.run.run progress with
      | (.ok a, progress) => (.ok a, progress)
      | (.error breakdown, progress) => (handler breakdown).run.run progress := by
  rw [ExceptT.run_tryCatch, StateT.run_bind]
  obtain ⟨result, progress⟩ := step.run.run progress
  cases result <;> rfl

theorem Yields.tryCatch {step : Step α} {handler : Breakdown → Step α} {a : α}
    (first : Yields step before (.ok a) after) :
    Yields (tryCatch step handler) before (.ok a) after := by
  intro progress same
  obtain ⟨value, sink⟩ := first progress same
  rw [run_tryCatch]
  generalize step.run.run progress = outcome at value sink
  obtain ⟨result, progress⟩ := outcome
  obtain rfl : result = .ok a := value
  exact ⟨rfl, sink⟩

theorem Yields.tryCatch_error {step : Step α} {handler : Breakdown → Step α}
    {breakdown : Breakdown} {result : Except Breakdown α}
    (first : Yields step before (.error breakdown) between)
    (second : Yields (handler breakdown) between result after) :
    Yields (MonadExcept.tryCatch step handler) before result after := by
  intro progress same
  obtain ⟨value, sink⟩ := first progress same
  rw [run_tryCatch]
  generalize step.run.run progress = outcome at value sink
  obtain ⟨result, progress⟩ := outcome
  obtain rfl : result = .error breakdown := value
  exact second progress sink

/-! Telling. -/

variable {event : Log.Event} {events : List Log.Event}

def untold : Breakdown := .untellable (.unwritable .numeral)

theorem run_tell (logger : String) (event : Log.Event) (progress : Progress) :
    (tell logger event).run.run progress =
      match progress.sink.write logger event with
      | .ok line => (.ok (), Progress.write line.toList progress)
      | .error failure => (.error (.untellable failure), progress) := by
  rw [tell, run_bind]
  change ((match progress.sink.write logger event with
    | .ok line => modify (Progress.write line.toList)
    | .error failure => throw (.untellable failure) : Step Unit).run.run progress) = _
  cases progress.sink.write logger event <;> rfl

theorem yields_tell (steady : Log.Plain before.bound) (logger : String)
    (ordinary : Log.Ordinary event.fields) :
    Yields (tell logger event) before (if event.isTellable then .ok () else .error untold)
      before := by
  obtain ⟨line, written⟩ := Log.Sink.write_eq steady logger ordinary
  intro progress same
  subst same
  rw [run_tell, written]
  cases event.isTellable <;> exact ⟨rfl, rfl⟩

theorem yields_tell_plain (steady : Log.Plain before.bound) (logger : String)
    (plain : Log.Plain event.fields) :
    Yields (tell logger event) before (.ok ()) before := by
  have told := yields_tell steady logger plain.ordinary
  rwa [Log.Event.isTellable, if_pos plain.tellable] at told

theorem yields_tellAll (steady : Log.Plain before.bound) (logger : String)
    (ordinary : ∀ event ∈ events, Log.Ordinary event.fields) :
    Yields (tellAll logger events) before
      (if events.all Log.Event.isTellable then .ok () else .error untold) before := by
  induction events with
  | nil => exact yields_pure ()
  | cons event rest induction =>
      obtain ⟨here, later⟩ := List.forall_mem_cons.mp ordinary
      have told := yields_tell steady logger here
      rw [tellAll, List.all_cons]
      cases tellable : event.isTellable with
      | false =>
          rw [tellable] at told
          exact told.bind_error
      | true =>
          rw [tellable] at told
          rw [Bool.true_and]
          exact told.bind (induction later)

theorem yields_tellAll_plain (steady : Log.Plain before.bound) (logger : String)
    (plain : ∀ event ∈ events, Log.Plain event.fields) :
    Yields (tellAll logger events) before (.ok ()) before := by
  have told := yields_tellAll steady logger fun event member => (plain event member).ordinary
  have tellable : events.all Log.Event.isTellable = true :=
    List.all_eq_true.mpr fun event member => (plain event member).tellable
  rwa [tellable] at told

theorem yields_refuse (steady : Log.Plain before.bound) (breakdown : Breakdown) {refused : Refused}
    (plain : Log.Plain refused.event.fields) :
    Yields (refuse breakdown (some refused)) before (.ok ⟨refused.exit, ""⟩) before :=
  (yields_tell_plain steady runLogger plain).bind (yields_pure _)

/-- Keys that cannot be told make a refusal of the warning about them. -/
theorem yields_warn (steady : Log.Plain before.bound) (path : String)
    (ordinary : ∀ event ∈ events, Log.Ordinary event.fields) :
    Yields (warn path events) before
      (.ok (if events.all Log.Event.isTellable then none
        else some (Refused.unreadable path none))) before := by
  have told := yields_tellAll steady runLogger ordinary
  rw [warn]
  cases tellable : events.all Log.Event.isTellable with
  | false =>
      rw [tellable] at told
      exact .tryCatch_error told.bind_error (yields_pure _)
  | true =>
      rw [tellable] at told
      exact .tryCatch (told.bind (yields_pure _))

end WalCheckpoint.Inspection
