import Mathlib.Data.List.Basic
import Mathlib.Data.List.Induction
import WalCheckpoint.Fleet
import WalCheckpoint.Proofs.Tracker.Step

namespace WalCheckpoint.Fleet

/-! What operations do to the tracker that goes by one name. -/

theorem tracker?_put (trackers : List (String × Tracker)) (m : Metrics) (name other : String)
    (tracker : Tracker) :
    tracker? ⟨put name tracker trackers, m⟩ other =
      if other = name then some tracker else tracker? ⟨trackers, m⟩ other := by
  induction trackers with
  | nil =>
      by_cases same : other = name
      · simp [put, tracker?, same]
      · simp [put, tracker?, same, Ne.symm same]
  | cons entry rest induction =>
      obtain ⟨first, held⟩ := entry
      by_cases hfirst : first = name
      · subst hfirst
        by_cases same : other = first
        · simp [put, tracker?, same]
        · simp [put, tracker?, same, Ne.symm same]
      · by_cases same : other = first
        · subst same
          simp [put, tracker?, hfirst]
        · simp only [tracker?, put, hfirst] at induction ⊢
          simpa [Ne.symm same] using induction

theorem run_concat (fleet : Fleet) (before : List Operation) (operation : Operation) :
    fleet.run (before ++ [operation]) =
      let front := fleet.run before
      let last := front.fleet.apply operation
      { last with events := front.events ++ last.events } := by
  simp [run]

/-- What may be asked of a tracker, under whatever name it goes. -/
inductive Request where
  | start (server database : Option String)
  | run (operation : Tracker.Operation)

namespace Request

def on (name : String) : Request → Operation
  | .start server database => .start name server database
  | .run operation => .run name operation

/-- The tracker that a request leaves. One that starts anew forgets all it was. -/
def after (t : Tracker) : Request → Tracker
  | .start server database =>
      match Source.make server database with
      | .error _ => t
      | .ok source => .start source
  | .run operation => t.after operation

end Request

variable {fleet : Fleet} {name : String} {t : Tracker}

theorem apply_request (held : fleet.tracker? name = some t) (request : Request) :
    (fleet.apply (request.on name)).fleet.tracker? name = some (request.after t) := by
  cases request with
  | start server database =>
      simp only [Request.on, apply, Request.after]
      cases Source.make server database with
      | error error => exact held
      | ok source => rw [tracker?_put, if_pos rfl]
  | run operation =>
      simp only [Request.on, apply, runOn, held, Request.after]
      rw [tracker?_put, if_pos rfl, Tracker.apply_tracker]

/-- A request goes through or fails the same on all trackers of all fleets. -/
theorem apply_request_failure {fleet' : Fleet} {name' : String} {t' : Tracker}
    (held : fleet.tracker? name = some t) (held' : fleet'.tracker? name' = some t')
    (request : Request) :
    (fleet.apply (request.on name)).failure = (fleet'.apply (request.on name')).failure := by
  cases request with
  | start server database =>
      simp only [Request.on, apply]
      cases Source.make server database <;> rfl
  | run operation =>
      simp only [Request.on, apply, runOn, held, held']
      rw [Tracker.apply_failure t t' fleet.metrics fleet'.metrics]

theorem run_requests (held : fleet.tracker? name = some t) (requests : List Request) :
    (fleet.run (requests.map (Request.on name))).fleet.tracker? name =
      some (requests.foldl Request.after t) := by
  induction requests using List.reverseRecOn with
  | nil => exact held
  | append_singleton before last induction =>
      rw [List.map_append, List.map_singleton, run_concat, List.foldl_append]
      exact apply_request induction last

theorem run_requests_failure {fleet' : Fleet} {name' : String} {t' : Tracker}
    (held : fleet.tracker? name = some t) (held' : fleet'.tracker? name' = some t')
    (requests : List Request) :
    (fleet.run (requests.map (Request.on name))).failure =
      (fleet'.run (requests.map (Request.on name'))).failure := by
  rcases List.eq_nil_or_concat' requests with rfl | ⟨before, last, rfl⟩
  · rfl
  · rw [List.map_append, List.map_singleton, List.map_append, List.map_singleton, run_concat,
      run_concat]
    exact apply_request_failure (run_requests held before) (run_requests held' before) last

end WalCheckpoint.Fleet
