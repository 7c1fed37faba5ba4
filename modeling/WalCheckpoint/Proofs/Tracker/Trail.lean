import WalCheckpoint.Proofs.Tracker.Run

namespace WalCheckpoint

/-! The audit trail of a tracker. Its entries tell by themselves whether a snapshot runs, whatever
else is told between them. -/

namespace Log

def Event.field? (e : Event) (name : String) : Option Value :=
  e.fields.lookup name

def transitionNames : List String :=
  ["snapshot_started", "snapshot_last_record", "snapshot_completed"]

/-- Whether a snapshot runs after an entry of the trail, by what the entry says and by what was so
before it. -/
def Event.follow (running : Bool) (e : Event) : Bool :=
  if e.name = "snapshot_started" then true
  else if e.name = "snapshot_completed" then false
  else if e.name = "Stored offset loaded" then e.field? "snapshot" = some (.bool true)
  else running

/-- The trail is what is told at the level of information. -/
def trail (events : List Event) : List Event :=
  events.filter fun e => e.level = .info

/-- Whether a snapshot runs, by the trail alone. -/
def running (events : List Event) : Bool :=
  (trail events).foldl Event.follow false

theorem trail_append (events later : List Event) :
    trail (events ++ later) = trail events ++ trail later :=
  List.filter_append ..

theorem running_append (events later : List Event) :
    running (events ++ later) = (trail later).foldl Event.follow (running events) := by
  rw [running, trail_append, List.foldl_append, running]

end Log

namespace Tracker

open Log (trail running transitionNames)

/-- The name of the entry that an operation leaves in the trail, where it leaves any. -/
def Operation.entry? (failure : Option Failure) : Operation → Option String
  | .startSnapshot => some "snapshot_started"
  | .markLastRecord => some "snapshot_last_record"
  | .completeSnapshot => some "snapshot_completed"
  | .load _ => if failure = none then some "Stored offset loaded" else none
  | .update .. => none
  | .updateTimestamp .. => none

def Step.entry? (s : Step) : Option String :=
  s.operation.entry? s.outcome.failure

/-- What an operation tells on a tracker, with the failure it ends in. -/
inductive Tells (t : Tracker) : Operation → Option Failure → List Log.Event → Prop
  | loaded {stored : Mapping} {offset : Offset} (read : Offset.read stored = .ok offset) :
      Tells t (.load stored) none [(t.withOffset offset).offsetLoaded]
  | refused {stored : Mapping} {error : Offset.ReadError} (read : Offset.read stored = .error error) :
      Tells t (.load stored) (some (.unreadableOffset error)) []
  | updated {lsn : Option Int} {commitTime : Option Time.DateTime} {txId : Option Int}
      {table : Option TableId} {xmin : Option Int} {failure : Option Failure} {events : List Log.Event}
      (debug : ∀ e ∈ events, e.level = .debug ∧ e.name = "Source position updated") :
      Tells t (.update lsn commitTime txId table xmin) failure events
  | timed {commitMicros : Option Int} {table : Option TableId} {failure : Option Failure} :
      Tells t (.updateTimestamp commitMicros table) failure []
  | started : Tells t .startSnapshot none [(t.after .startSnapshot).transitioned "started" true]
  | marked (runs : t.inSnapshot = true) :
      Tells t .markLastRecord none [(t.after .markLastRecord).transitioned "last_record" true]
  | markedOutside (idle : t.inSnapshot = false) :
      Tells t .markLastRecord none
        [markedOutsideSnapshot t.source, (t.after .markLastRecord).transitioned "last_record" false]
  | completed :
      Tells t .completeSnapshot none [(t.after .completeSnapshot).transitioned "completed" false]

theorem tells_apply (t : Tracker) (m : Metrics) (operation : Operation) :
    Tells t operation (t.apply m operation).failure (t.apply m operation).events := by
  cases operation with
  | load stored =>
      rw [apply, load]
      cases read : Offset.read stored with
      | error error => exact .refused read
      | ok offset => exact .loaded read
  | update lsn commitTime txId table xmin =>
      rw [apply, update]
      split
      · exact .updated (List.forall_mem_singleton.mpr ⟨rfl, rfl⟩)
      · exact .updated (List.forall_mem_nil _)
  | updateTimestamp commitMicros table =>
      rw [apply, updateTimestamp]
      split <;> exact .timed
  | startSnapshot => exact .started
  | markLastRecord =>
      have told : (t.apply m .markLastRecord).events =
          (if t.inSnapshot then [] else [markedOutsideSnapshot t.source]) ++
            [(t.after .markLastRecord).transitioned "last_record" t.inSnapshot] := rfl
      rw [told]
      cases runs : t.inSnapshot with
      | true => exact .marked runs
      | false => exact .markedOutside runs
  | completeSnapshot => exact .completed

section Step

variable {t : Tracker} {operation : Operation} {failure : Option Failure} {events : List Log.Event}

theorem trail_eq_nil (debug : ∀ e ∈ events, e.level = .debug ∧ e.name = "Source position updated") :
    trail events = [] := by
  rw [trail, List.filter_eq_nil_iff]
  intro e member
  rw [(debug e member).1]
  decide

theorem follow_offsetLoaded (t : Tracker) (running : Bool) :
    t.offsetLoaded.follow running = t.inSnapshot := by
  have told : t.offsetLoaded.follow running =
      decide (some (Value.bool t.inSnapshot) = some (.bool true)) := rfl
  rw [told]
  simp

theorem Tells.names (tells : Tells t operation failure events) :
    (trail events).map Log.Event.name = (operation.entry? failure).toList := by
  cases tells with
  | loaded read => rfl
  | refused read => rfl
  | updated debug => rw [trail_eq_nil debug]; rfl
  | timed => rfl
  | started => rfl
  | marked runs => rfl
  | markedOutside idle => rfl
  | completed => rfl

/-- The trail follows whether a snapshot runs, through every operation. -/
theorem Tells.follow (tells : Tells t operation failure events) :
    (trail events).foldl Log.Event.follow t.inSnapshot = (t.after operation).inSnapshot := by
  cases tells with
  | @loaded stored offset read =>
      have loaded : t.after (.load stored) = t.withOffset offset := by simp only [after, read]
      rw [loaded]
      exact (t.withOffset offset).follow_offsetLoaded t.inSnapshot
  | @refused stored error read =>
      have refused : t.after (.load stored) = t := by simp only [after, read]
      rw [refused]
      rfl
  | updated debug => rw [trail_eq_nil debug]; simp [after]
  | timed => simp [after, trail]
  | started => rfl
  | marked runs => rfl
  | markedOutside idle => rfl
  | completed => rfl

theorem Tells.transition (tells : Tells t operation failure events) {e : Log.Event}
    (member : e ∈ events) (transition : e.name ∈ transitionNames) :
    e.field? "snapshot_in_effect" = some (.bool (t.after operation).inSnapshot) ∧
      e.field? "lsn" = some (Offset.ofOptionalInt (t.after operation).position.lsn) := by
  cases tells with
  | loaded read =>
      obtain rfl := List.mem_singleton.mp member
      exact absurd transition (show "Stored offset loaded" ∉ transitionNames by decide)
  | refused read => contradiction
  | updated debug =>
      rw [(debug e member).2] at transition
      exact absurd transition (by decide)
  | timed => contradiction
  | started =>
      obtain rfl := List.mem_singleton.mp member
      exact ⟨rfl, rfl⟩
  | marked runs =>
      obtain rfl := List.mem_singleton.mp member
      exact ⟨congrArg (fun inEffect => some (Value.bool inEffect)) runs.symm, rfl⟩
  | markedOutside idle =>
      rcases List.mem_cons.mp member with rfl | member
      · exact absurd transition (show
          "Last snapshot record marked outside of a snapshot" ∉ transitionNames by decide)
      · obtain rfl := List.mem_singleton.mp member
        exact ⟨congrArg (fun inEffect => some (Value.bool inEffect)) idle.symm, rfl⟩
  | completed =>
      obtain rfl := List.mem_singleton.mp member
      exact ⟨rfl, rfl⟩

/-- Only a mark made while no snapshot runs is told as one. -/
theorem Tells.markedOutside_iff (tells : Tells t operation failure events) :
    (∃ e ∈ events, e.level = .debug ∧
        e.name = "Last snapshot record marked outside of a snapshot") ↔
      operation = .markLastRecord ∧ t.inSnapshot = false := by
  cases tells with
  | loaded read => simp [offsetLoaded]
  | refused read => simp
  | updated debug =>
      refine iff_of_false ?_ nofun
      rintro ⟨e, member, -, name⟩
      rw [(debug e member).2] at name
      exact absurd name (by decide)
  | timed => simp
  | started => simp [transitioned, snapshotTransition]
  | marked runs => simp [transitioned, snapshotTransition, runs]
  | markedOutside idle => simp [markedOutsideSnapshot, idle]
  | completed => simp [transitioned, snapshotTransition]

end Step

section Run

variable (source : Source) (m : Metrics) (operations : List Operation)

theorem run_trail_names :
    (trail (run m (start source) operations).events).map Log.Event.name =
      (history m (start source) operations).filterMap Step.entry? := by
  rw [List.filterMap_eq_flatMap_toList]
  induction operations using List.reverseRecOn with
  | nil => rfl
  | append_singleton before last induction =>
      rw [run_concat, history_concat, List.flatMap_append, List.flatMap_singleton, ← induction]
      simp only
      rw [Log.trail_append, List.map_append, (tells_apply ..).names]
      rfl

theorem run_running :
    running (run m (start source) operations).events =
      (run m (start source) operations).tracker.inSnapshot := by
  induction operations using List.reverseRecOn with
  | nil => rfl
  | append_singleton before last induction =>
      rw [run_concat]
      simp only
      rw [Log.running_append, induction, (tells_apply ..).follow, apply_tracker]

end Run

/-- The trail of a run has one entry for each start, mark and end of a snapshot and for each load that
goes through, in their order, and no other. Read by itself it tells after each operation whether a
snapshot runs; the entry of a transition says so too, and where the tracker then is; and a mark is told
as one outside of a snapshot exactly where the trail tells that none runs. -/
theorem audit_trail (source : Source) (m : Metrics) (operations : List Operation)
    (operation : Operation) :
    let before := run m (start source) operations
    let after := run m (start source) (operations ++ [operation])
    let told := (before.tracker.apply before.metrics operation).events
    (trail before.events).map Log.Event.name =
        (history m (start source) operations).filterMap Step.entry? ∧
      running before.events = before.tracker.inSnapshot ∧
      after.events = before.events ++ told ∧
      (∀ e ∈ told, e.name ∈ transitionNames →
        e.field? "snapshot_in_effect" = some (.bool (running after.events)) ∧
        e.field? "lsn" = some (Offset.ofOptionalInt after.tracker.position.lsn)) ∧
      ((∃ e ∈ told, e.level = .debug ∧
          e.name = "Last snapshot record marked outside of a snapshot") ↔
        operation = .markLastRecord ∧ running before.events = false) := by
  intro before after told
  have tells := tells_apply before.tracker before.metrics operation
  have last : after = { before.tracker.apply before.metrics operation with
      events := before.events ++ told } := run_concat m (start source) operations operation
  have ends : after.tracker = before.tracker.after operation := by rw [last, apply_tracker]
  have runs : running before.events = before.tracker.inSnapshot := run_running source m operations
  have runs' : running after.events = after.tracker.inSnapshot :=
    run_running source m (operations ++ [operation])
  refine ⟨run_trail_names source m operations, runs, by rw [last], fun e member transition => ?_, ?_⟩
  · rw [runs', ends]
    exact tells.transition member transition
  · rw [runs]
    exact tells.markedOutside_iff

/-- A load without a position is refused within a snapshot, and a mark comes after its end. -/
theorem audit_trail_after_end :
    let source : Source := ⟨"pg", "shop", by decide, by decide⟩
    let operations : List Operation :=
      [.update (some 7) none (some 1) none none, .startSnapshot, .load [], .markLastRecord,
        .completeSnapshot]
    let before := run .empty (start source) operations
    let after := run .empty (start source) (operations ++ [.markLastRecord])
    let told := (before.tracker.apply before.metrics .markLastRecord).events
    let e := after.tracker.transitioned "last_record" false
    (trail before.events).map Log.Event.name =
        ["snapshot_started", "snapshot_last_record", "snapshot_completed"] ∧
      e ∈ told ∧ e.name ∈ transitionNames ∧
      e.field? "snapshot_in_effect" = some (.bool (running after.events)) ∧
      e.field? "lsn" = some (.int 7) ∧ running after.events = false := by
  intro source operations before after told e
  obtain ⟨names, -, -, fields, -⟩ := audit_trail source .empty operations .markLastRecord
  have member : e ∈ told := by decide +kernel
  have transition : e.name ∈ transitionNames := by decide +kernel
  obtain ⟨inEffect, lsn⟩ := fields e member transition
  exact ⟨names.trans (by decide +kernel), member, transition, inEffect, lsn, by decide +kernel⟩

end Tracker

end WalCheckpoint
