import WalCheckpoint.Tracker

namespace WalCheckpoint

/-! Several trackers under names of their own, with one set of measurements. -/

structure Fleet where
  trackers : List (String × Tracker)
  metrics : Metrics
  deriving DecidableEq

namespace Fleet

def empty : Fleet := ⟨[], .empty⟩

def tracker? (fleet : Fleet) (name : String) : Option Tracker :=
  (fleet.trackers.find? fun entry => entry.1 == name).map Prod.snd

def put (name : String) (tracker : Tracker) : List (String × Tracker) → List (String × Tracker)
  | [] => [(name, tracker)]
  | (name', tracker') :: rest =>
      if name' = name then (name, tracker) :: rest
      else (name', tracker') :: put name tracker rest

inductive Operation where
  | start (name : String) (server database : Option String)
  | run (name : String) (operation : Tracker.Operation)
  | loadOffsetOf (name other : String)
  deriving DecidableEq

inductive Failure where
  | noTracker (name : String)
  | unnamedSource (error : Source.NameError)
  | tracker (failure : Tracker.Failure)
  deriving DecidableEq

structure Outcome where
  fleet : Fleet
  events : List Log.Event
  failure : Option Failure
  deriving DecidableEq

def runOn (fleet : Fleet) (name : String) (operation : Tracker.Operation) : Outcome :=
  match fleet.tracker? name with
  | none => ⟨fleet, [], some (.noTracker name)⟩
  | some tracker =>
      let outcome := tracker.apply fleet.metrics operation
      ⟨⟨put name outcome.tracker fleet.trackers, outcome.metrics⟩, outcome.events,
        outcome.failure.map .tracker⟩

def apply (fleet : Fleet) : Operation → Outcome
  | .start name server database =>
      match Source.make server database with
      | .error error => ⟨fleet, [], some (.unnamedSource error)⟩
      | .ok source =>
          ⟨{ fleet with trackers := put name (.start source) fleet.trackers },
            [Tracker.initialized source], none⟩
  | .run name operation => fleet.runOn name operation
  | .loadOffsetOf name other =>
      match fleet.tracker? other with
      | none => ⟨fleet, [], some (.noTracker other)⟩
      | some tracker => fleet.runOn name (.load tracker.offset.toMapping)

def run (fleet : Fleet) (operations : List Operation) : Outcome :=
  operations.foldl
    (fun before operation =>
      let after := before.fleet.apply operation
      { after with events := before.events ++ after.events })
    ⟨fleet, [], none⟩

end Fleet

end WalCheckpoint
