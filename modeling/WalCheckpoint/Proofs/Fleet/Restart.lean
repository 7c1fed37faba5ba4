import WalCheckpoint.Proofs.Fleet.Run
import WalCheckpoint.Proofs.Offset.RoundTrip
import WalCheckpoint.Proofs.Tracker.Snapshot

namespace WalCheckpoint.Fleet

/-! A tracker that was lost and one that was restored from its offset cannot be told apart by
anything that is asked of both. -/

namespace Request

/-- The same source and the same offset, whatever else the trackers know. -/
structure Resumes (lost restored : Tracker) : Prop where
  source : lost.source = restored.source
  offset : lost.offset = restored.offset

variable {lost restored : Tracker}

theorem Resumes.after (h : Resumes lost restored) (request : Request) :
    Resumes (request.after lost) (request.after restored) := by
  cases request with
  | start server database =>
      rw [Request.after, Request.after]
      cases Source.make server database with
      | error error => exact h
      | ok source => exact ⟨rfl, rfl⟩
  | run operation =>
      refine ⟨?_, ?_⟩
      · rw [Request.after, Request.after, Tracker.after_source, Tracker.after_source, h.source]
      · rw [Request.after, Request.after, Tracker.after_offset, Tracker.after_offset, h.offset]

theorem Resumes.foldl (h : Resumes lost restored) (requests : List Request) :
    Resumes (requests.foldl Request.after lost) (requests.foldl Request.after restored) := by
  induction requests generalizing lost restored with
  | nil => exact h
  | cons request rest induction => exact induction (h.after request)

/-- A request supplies a part of a table where it names the part by a text that is not
empty. -/
def Supplies (part : TableId → Option String) : Request → Prop
  | .start _ _ => False
  | .run operation => ∃ name, operation.table?.bind part = some name ∧ name ≠ ""

section Names

/-! Both names of a table are kept in one way, so what follows is said of either. -/

variable {part : TableId → Option String} {known : Tracker → Option String}

theorem after_known_eq
    (sticky : ∀ t operation, known (Tracker.after t operation) =
      Tracker.stickyName (known t) (operation.table?.bind part))
    (same : known lost = known restored) (request : Request) :
    known (request.after lost) = known (request.after restored) := by
  cases request with
  | start server database =>
      rw [Request.after, Request.after]
      cases Source.make server database with
      | error error => exact same
      | ok source => rfl
  | run operation => rw [Request.after, Request.after, sticky, sticky, same]

theorem after_known_eq_of_supplies
    (sticky : ∀ t operation, known (Tracker.after t operation) =
      Tracker.stickyName (known t) (operation.table?.bind part))
    {request : Request} (supplies : request.Supplies part) :
    known (request.after lost) = known (request.after restored) := by
  cases request with
  | start server database => exact absurd supplies id
  | run operation =>
      obtain ⟨name, given, filled⟩ := supplies
      rw [Request.after, Request.after, sticky, sticky, given]
      simp [Tracker.stickyName, filled]

theorem foldl_known_eq
    (sticky : ∀ t operation, known (Tracker.after t operation) =
      Tracker.stickyName (known t) (operation.table?.bind part))
    {requests : List Request} (supplied : ∃ request ∈ requests, request.Supplies part) :
    known (requests.foldl Request.after lost) = known (requests.foldl Request.after restored) := by
  induction requests using List.reverseRecOn with
  | nil => simp at supplied
  | append_singleton before last induction =>
      rw [List.foldl_append, List.foldl_append]
      -- The latest request that supplies the part overrides all that was known before it.
      by_cases supplies : last.Supplies part
      · exact after_known_eq_of_supplies sticky supplies
      · refine after_known_eq sticky (induction ?_) last
        obtain ⟨request, member, hrequest⟩ := supplied
        rcases List.mem_append.mp member with member | member
        · exact ⟨request, member, hrequest⟩
        · exact absurd (List.mem_singleton.mp member ▸ hrequest) supplies

end Names

theorem Resumes.alike {requests : List Request} (h : Resumes lost restored)
    (schema : ∃ request ∈ requests, request.Supplies TableId.schema)
    (table : ∃ request ∈ requests, request.Supplies TableId.table) :
    Tracker.Alike (requests.foldl Request.after lost) (requests.foldl Request.after restored) where
  source := (h.foldl requests).source
  offset := (h.foldl requests).offset
  schema := foldl_known_eq (fun t operation => (t.after_names operation).1) schema
  table := foldl_known_eq (fun t operation => (t.after_names operation).2) table

end Request

/-- Two trackers that give the same to whoever asks for a checkpoint or resumes from one. -/
structure Indistinct (lost restored : Tracker) : Prop where
  offset : lost.offset.toMapping = restored.offset.toMapping
  hasPosition : lost.hasPosition = restored.hasPosition
  inSnapshot : lost.inSnapshot = restored.inSnapshot
  recovery : lost.recovery = restored.recovery

theorem Request.Resumes.indistinct {lost restored : Tracker} (h : Resumes lost restored) :
    Indistinct lost restored where
  offset := by rw [h.offset]
  hasPosition := by rw [Tracker.hasPosition_eq, Tracker.hasPosition_eq, h.offset]
  inSnapshot := by rw [Tracker.inSnapshot_eq, Tracker.inSnapshot_eq, h.offset]
  recovery := by rw [Tracker.recovery_eq, Tracker.recovery_eq, h.offset]

/-- What loading the offset of a lost tracker comes to: it fails where the offset lacks a
position or a transaction, and names the first that lacks. -/
theorem load_offset (lost t : Tracker) (m : Metrics) :
    (t.apply m (.load lost.offset.toMapping)).failure =
        (if lost.position.lsn = none then
          some (.unreadableOffset (.missing Offset.lsnKey))
        else if lost.position.txId = none then
          some (.unreadableOffset (.missing Offset.txIdKey))
        else none) ∧
      ((t.apply m (.load lost.offset.toMapping)).failure = none →
        (t.after (.load lost.offset.toMapping)).offset = lost.offset) := by
  rw [Tracker.apply, Tracker.load_failure, Tracker.after_offset, Tracker.Operation.onOffset,
    Offset.read_toMapping, Tracker.offset_position]
  cases lost.position.lsn with
  | none => exact ⟨rfl, fun loaded => absurd loaded (Option.some_ne_none _)⟩
  | some lsn =>
      cases lost.position.txId with
      | none => exact ⟨rfl, fun loaded => absurd loaded (Option.some_ne_none _)⟩
      | some txId => exact ⟨rfl, fun _ => rfl⟩

/-- Loading the offset of a lost tracker of the same source goes through where the offset has
a position and a transaction. From then on the two trackers fail and answer alike, whatever is
asked of both, and once both names of a table were given they write the same envelopes. -/
theorem indistinct_of_restored {crashed restarting : Fleet} {name name' : String}
    {a b : Tracker} (lost : crashed.tracker? name = some a)
    (held : restarting.tracker? name' = some b) (same : a.source = b.source) :
    let restored := restarting.apply (.run name' (.load a.offset.toMapping))
    restored.failure =
        (if a.position.lsn = none then
          some (.tracker (.unreadableOffset (.missing Offset.lsnKey)))
        else if a.position.txId = none then
          some (.tracker (.unreadableOffset (.missing Offset.txIdKey)))
        else none) ∧
      (restored.failure = none → ∀ requests : List Request,
        let left := crashed.run (requests.map (Request.on name))
        let right := restored.fleet.run (requests.map (Request.on name'))
        left.failure = right.failure ∧
          ∃ a' b', left.fleet.tracker? name = some a' ∧ right.fleet.tracker? name' = some b' ∧
            Indistinct a' b' ∧
            ((∃ request ∈ requests, request.Supplies TableId.schema) →
              (∃ request ∈ requests, request.Supplies TableId.table) →
              a'.envelope = b'.envelope)) := by
  intro restored
  obtain ⟨failure, loaded⟩ := load_offset a b restarting.metrics
  have failed : restored.failure =
      (b.apply restarting.metrics (.load a.offset.toMapping)).failure.map Failure.tracker := by
    simp only [restored, apply, runOn, held]
  refine ⟨?_, fun succeeded requests => ?_⟩
  · rw [failed, failure]
    split
    · rfl
    · split <;> rfl
  · have now : restored.fleet.tracker? name' =
        some (b.after (.load a.offset.toMapping)) :=
      apply_request held (.run (.load a.offset.toMapping))
    have offset : (b.after (.load a.offset.toMapping)).offset = a.offset :=
      loaded (Option.map_eq_none_iff.mp (failed.symm.trans succeeded))
    have resumes : Request.Resumes a (b.after (.load a.offset.toMapping)) :=
      ⟨by rw [Tracker.after_source, same], offset.symm⟩
    refine ⟨run_requests_failure lost now requests, _, _, run_requests lost requests,
      run_requests now requests, (resumes.foldl requests).indistinct, fun schema table => ?_⟩
    exact (resumes.alike schema table).envelope

/-- A tracker that kept a mark of an earlier snapshot and knew a table, and a fresh one that
loads its offset. -/
theorem indistinct_after_fresh_start :
    let source : Source := ⟨"pg", "shop", by decide, by decide⟩
    let a : Tracker :=
      ⟨source, ⟨some 100, some 7, none, none⟩, false, some true, some "old", some "items"⟩
    let crashed : Fleet := ⟨[("lost", a)], .empty⟩
    let restarting : Fleet := ⟨[("new", .start source)], .empty⟩
    let requests : List Request :=
      [.run .startSnapshot, .run (.updateTimestamp none (some ⟨some "public", some "orders"⟩))]
    let restored := restarting.apply (.run "new" (.load a.offset.toMapping))
    restored.failure = none ∧
      ∃ a' b', (crashed.run (requests.map (Request.on "lost"))).fleet.tracker? "lost" = some a' ∧
        (restored.fleet.run (requests.map (Request.on "new"))).fleet.tracker? "new" = some b' ∧
        Indistinct a' b' ∧ a'.envelope = b'.envelope := by
  intro source a crashed restarting requests restored
  have lost : crashed.tracker? "lost" = some a := by rfl
  have held : restarting.tracker? "new" = some (.start source) := by rfl
  obtain ⟨failure, told⟩ := indistinct_of_restored lost held rfl
  have succeeded : restored.failure = none := failure
  obtain ⟨-, a', b', left, right, indistinct, envelope⟩ := told succeeded requests
  refine ⟨succeeded, a', b', left, right, indistinct, envelope ?_ ?_⟩
  · exact ⟨_, .tail _ (.head _), "public", rfl, by decide⟩
  · exact ⟨_, .tail _ (.head _), "orders", rfl, by decide⟩

end WalCheckpoint.Fleet
