import Mathlib.Data.List.Induction
import WalCheckpoint.Log.Session
import WalCheckpoint.Proofs.Log.Rendering

namespace WalCheckpoint.Log

/-! Sessions with a log. Threshold and format are those of the latest configuration that went
through, bound fields those of the latest binding, and each call that tells an event leaves the line
that these say. -/

namespace Call

def fields : Call → List (String × Value)
  | .configure .. => []
  | .bind fields => fields
  | .bindSource server database => [("server", server), ("db", database)]
  | .transition _ name server lsn inEffect =>
      (Tracker.snapshotTransition name server lsn inEffect).fields
  | .tell _ _ _ fields => fields

def bound? : Call → Option (List (String × Value))
  | .bind fields => some fields
  | .bindSource server database => some [("server", server), ("db", database)]
  | _ => none

def setup? : Call → Option Setup
  | .configure level format =>
      (severity? (Text.upper level)).map fun threshold => ⟨threshold, Format.ofName format⟩
  | _ => none

/-- Whether a call is a configuration that goes through. -/
def setsUp : Call → Bool
  | .configure level format =>
      (Sink.silent.apply (.configure level format)).failure.isNone
  | _ => false

/-- Calls that tell an event: transitions of snapshots, and events at a level. -/
inductive Tells : Call → String → Event → Prop
  | transition {logger name : String} {server lsn inEffect : Value} :
      Tells (.transition logger name server lsn inEffect) logger
        (Tracker.snapshotTransition name server lsn inEffect)
  | tell {logger event : String} {level : Level} {fields : List (String × Value)} :
      Tells (.tell logger (.plain level) event fields) logger ⟨level, event, fields⟩

theorem Tells.fields_eq {call : Call} {logger : String} {event : Event}
    (tells : call.Tells logger event) : call.fields = event.fields := by
  cases tells <;> rfl

theorem fields_of_bound? {call : Call} {fields : List (String × Value)}
    (bound : call.bound? = some fields) : call.fields = fields := by
  cases call with
  | bind _ => exact Option.some.inj bound
  | bindSource _ _ => exact Option.some.inj bound
  | _ => contradiction

end Call

/-- What keeps an event out of the log at every threshold: a field with the name of a parameter of
the calls at a level, something else where the record of another log may stand, or a number with
too many digits. -/
inductive Refused (event : Event) (bound : List (String × Value)) : Prop
  | parameter {field : String × Value} (member : field ∈ event.fields)
      (taken : field.1 ∈ ["self", "method_name"])
  | foreign {value : Value} (held : event.fieldOver? bound "_record" = some value)
      (given : value ≠ .null)
  | unwritable {name : String} {n : Int} (held : event.fieldOver? bound name = some (.int n))
      (long : Nat.pow 10 Text.Numeral.digitLimit ≤ n.natAbs)

namespace Sink

theorem run_concat (sink : Sink) (before : List Call) (call : Call) :
    sink.run (before ++ [call]) =
      let front := sink.run before
      let last := front.sink.apply call
      { last with lines := front.lines ++ last.lines } := by
  simp [run]

theorem apply_configure (level format : String) (sink : Sink) :
    (∃ setup, (Call.configure level format).setup? = some setup ∧
        sink.apply (.configure level format) = ⟨{ sink with setup := some setup }, [], none⟩) ∨
      (Call.configure level format).setup? = none ∧
        ∃ failure, sink.apply (.configure level format) = ⟨sink, [], some failure⟩ := by
  rw [Call.setup?, apply]
  cases named : severity? (Text.upper level) with
  | some threshold => exact .inl ⟨_, rfl, by simp [configure, named]⟩
  | none =>
      right
      simp only [configure, named, Option.map_none, true_and]
      split_ifs <;> exact ⟨_, rfl⟩

theorem setsUp_eq (call : Call) : call.setsUp = call.setup?.isSome := by
  cases call with
  | configure level format =>
      rw [Call.setsUp]
      rcases apply_configure level format silent with
        ⟨setup, found, done⟩ | ⟨found, failure, failed⟩
      · rw [found, done]
        rfl
      · rw [found, failed]
        rfl
  | _ => rfl

theorem telling_sink (sink : Sink) (told : Except Failure (List Line)) :
    (sink.telling told).sink = sink := by
  cases told <;> rfl

theorem apply_sink (sink : Sink) (call : Call) :
    (sink.apply call).sink =
      ⟨call.setup?.or sink.setup, call.bound?.getD sink.bound⟩ := by
  cases call with
  | configure level format =>
      rcases apply_configure level format sink with ⟨setup, found, done⟩ | ⟨found, failure, failed⟩
      · rw [found, done]
        rfl
      · rw [found, failed]
        rfl
  | bind fields => rfl
  | bindSource server database => rfl
  | transition logger name server lsn inEffect => exact telling_sink ..
  | tell logger way event fields => exact telling_sink ..

/-! What a run leaves is told by its last calls, so the induction is from the end. -/

theorem run_setup (calls : List Call) :
    (silent.run calls).sink.setup = (calls.filter Call.setsUp).getLast?.bind Call.setup? := by
  induction calls using List.reverseRecOn with
  | nil => rfl
  | append_singleton before last induction =>
      rw [run_concat, List.filter_append, List.getLast?_append, List.filter_singleton, setsUp_eq]
      dsimp only
      rw [apply_sink, induction]
      cases held : last.setup? with
      | none => rfl
      | some setup => exact held.symm

theorem run_bound (calls : List Call) :
    (silent.run calls).sink.bound = (calls.filterMap Call.bound?).getLast?.getD [] := by
  induction calls using List.reverseRecOn with
  | nil => rfl
  | append_singleton before last induction =>
      rw [run_concat, List.filterMap_append, List.getLast?_append]
      dsimp only
      rw [apply_sink, induction, List.filterMap_cons]
      cases last.bound? with
      | none => rfl
      | some fields => rfl

section Telling

variable {sink : Sink} {event : Event} {threshold : Nat} {format : String}

theorem write_eq_of_simple (configured : sink.setup = some ⟨threshold, Format.ofName format⟩)
    (logger : String) (own : Simple event.fields) (simple : Simple sink.bound) :
    sink.write logger event =
      let r := Record.ofEvent logger event sink.bound
      if (r.field? Record.recordName).any (· != .null) then .error .foreignRecord
      else (Line.ofRecord (Format.ofName format) r).map fun line =>
        if threshold ≤ event.level.severity then some line else none := by
  have merged := Record.simple_ofEvent logger own simple
  have lacks : (Record.ofEvent logger event sink.bound).Lacks
      (Record.argumentsName :: Record.requestNames) :=
    (Record.lacks_of_simple merged).mono (by decide)
  rw [write, configured]
  dsimp only
  rw [lacks.prepare fun field member => Value.decoded_of_isSimple (merged.values field member)]
  split
  · rfl
  · change (Line.ofRecord (Format.ofName format) _ >>= fun line => pure _) = _
    cases Line.ofRecord (Format.ofName format) (Record.ofEvent logger event sink.bound) <;> rfl

theorem write_told (configured : sink.setup = some ⟨threshold, Format.ofName format⟩)
    (logger : String) (own : Simple event.fields) (simple : Simple sink.bound)
    (told : ¬ Refused event sink.bound) :
    ∃ line : Line, line.Renders format (Record.ofEvent logger event sink.bound) ∧
      sink.write logger event =
        .ok (if threshold ≤ event.level.severity then some line else none) := by
  have written := write_eq_of_simple configured logger own simple
  have merged := Record.simple_ofEvent logger own simple
  have carries := Record.carries_ofEvent logger own simple
  generalize Record.ofEvent logger event sink.bound = r at written merged carries ⊢
  have native : (r.field? Record.recordName).any (· != .null) = false := by
    rw [Option.any_eq_false]
    intro value held
    rw [carries.fields] at held
    by_contra given
    exact told (.foreign held (by simpa using given))
  have tellable : (r.fields.all fun field => field.2.isTellable) = true := by
    by_contra untellable
    obtain ⟨name, n, held, long⟩ :=
      (Record.untellable_iff merged).mp (Bool.eq_false_of_not_eq_true untellable)
    rw [carries.fields] at held
    exact told (.unwritable held long)
  obtain ⟨line, renders⟩ := exists_renders format merged tellable
  refine ⟨line, renders, ?_⟩
  rw [written]
  dsimp only
  rw [native, renders.written]
  rfl

theorem write_refused (configured : sink.setup = some ⟨threshold, Format.ofName format⟩)
    (logger : String) (own : Simple event.fields) (simple : Simple sink.bound)
    (free : ∀ field ∈ event.fields, field.1 ∉ ["self", "method_name"])
    (refused : Refused event sink.bound) :
    ∃ failure, sink.write logger event = .error failure := by
  have written := write_eq_of_simple configured logger own simple
  have merged := Record.simple_ofEvent logger own simple
  have carries := Record.carries_ofEvent logger own simple
  -- From here on the record counts only as one that carries these fields.
  generalize Record.ofEvent logger event sink.bound = r at written merged carries
  dsimp only at written
  cases refused with
  | parameter member taken => exact absurd taken (free _ member)
  | foreign held given =>
      rw [← carries.fields] at held
      have foreign : (r.field? Record.recordName).any (· != .null) = true :=
        (Option.any_eq_true _ _).mpr ⟨_, held, by simpa using given⟩
      rw [foreign] at written
      exact ⟨_, written⟩
  | unwritable held long =>
      rw [← carries.fields] at held
      have untellable := (Record.untellable_iff merged).mpr ⟨_, _, held, long⟩
      obtain ⟨line, unwritten⟩ := Line.ofRecord_eq
        ((Record.lacks_of_simple merged).mono (by decide))
        (Record.hasOnce_of_simple merged Record.otherLoggerName) merged.hasNames
        (Format.ofName format)
      rw [untellable] at unwritten
      rw [unwritten] at written
      -- Something else in the place of a record may still come first. It fails as well.
      split at written
      · exact ⟨_, written⟩
      · exact ⟨_, written⟩

theorem call_plain (sink : Sink) (logger : String) (level : Level) (name : String)
    (fields : List (String × Value)) :
    sink.call logger (.plain level) name fields =
      if fields.any fun field => takenNames.contains field.1 then .error .reservedField
      else (sink.write logger ⟨level, name, fields⟩).map Option.toList := by
  rw [Sink.call]
  split
  · rfl
  · rw [show (Way.plain level).level = level from rfl]
    cases sink.write logger ⟨level, name, fields⟩ with
    | error failure => rfl
    | ok line => cases line <;> rfl

variable {call : Call} {logger : String}

theorem apply_of_parameter (tells : call.Tells logger event) {field : String × Value}
    (member : field ∈ event.fields) (taken : field.1 ∈ ["self", "method_name"]) (sink : Sink) :
    sink.apply call = ⟨sink, [], some (.event .reservedField)⟩ := by
  cases tells with
  | transition =>
      have name : field.1 ∈ ["server", "lsn", "snapshot_in_effect"] := List.mem_map_of_mem member
      exact absurd taken ((by decide : ∀ name ∈ ["server", "lsn", "snapshot_in_effect"],
        name ∉ ["self", "method_name"]) _ name)
  | tell =>
      rw [apply, call_plain, if_pos]
      · rfl
      · apply List.any_eq_true.mpr
        exact ⟨field, member, List.contains_iff_mem.mpr (List.mem_cons_of_mem _ taken)⟩

theorem apply_of_free (tells : call.Tells logger event) (own : Simple event.fields)
    (free : ∀ field ∈ event.fields, field.1 ∉ ["self", "method_name"]) (sink : Sink) :
    sink.apply call = sink.telling ((sink.write logger event).map Option.toList) := by
  cases tells with
  | transition => rfl
  | tell =>
      rw [apply, call_plain, if_neg]
      intro found
      obtain ⟨field, member, taken⟩ := List.any_eq_true.mp found
      rcases List.mem_cons.mp (List.contains_iff_mem.mp taken) with said | taken
      · exact own.free field member (said ▸ List.mem_cons_self)
      · exact free field member taken

theorem apply_told (tells : call.Tells logger event)
    (configured : sink.setup = some ⟨threshold, Format.ofName format⟩)
    (own : Simple event.fields) (simple : Simple sink.bound) (told : ¬ Refused event sink.bound) :
    ∃ line : Line, line.Renders format (Record.ofEvent logger event sink.bound) ∧
      sink.apply call =
        ⟨sink, if threshold ≤ event.level.severity then [line] else [], none⟩ := by
  obtain ⟨line, renders, written⟩ := write_told configured logger own simple told
  refine ⟨line, renders, ?_⟩
  rw [apply_of_free tells own (fun field member taken => told (.parameter member taken)), written]
  split <;> rfl

theorem apply_refused (tells : call.Tells logger event)
    (configured : sink.setup = some ⟨threshold, Format.ofName format⟩)
    (own : Simple event.fields) (simple : Simple sink.bound) (refused : Refused event sink.bound) :
    ∃ failure, sink.apply call = ⟨sink, [], some failure⟩ := by
  by_cases free : ∀ field ∈ event.fields, field.1 ∉ ["self", "method_name"]
  · obtain ⟨failure, unwritten⟩ := write_refused configured logger own simple free refused
    refine ⟨.event failure, ?_⟩
    rw [apply_of_free tells own free, unwritten]
    rfl
  -- The names of parameters are caught before anything is merged.
  · push Not at free
    obtain ⟨field, member, taken⟩ := free
    exact ⟨_, apply_of_parameter tells member taken sink⟩

end Telling

section Session

variable {before : List Call} {level format : String}

theorem exists_threshold
    (configured : (before.filter Call.setsUp).getLast? = some (.configure level format)) :
    ∃ threshold, severity? (Text.upper level) = some threshold ∧
      (silent.run before).sink.setup = some ⟨threshold, Format.ofName format⟩ := by
  obtain ⟨-, succeeded⟩ := List.mem_filter.mp (List.mem_of_getLast? configured)
  rw [setsUp_eq, Call.setup?, Option.isSome_map, Option.isSome_iff_exists] at succeeded
  obtain ⟨threshold, named⟩ := succeeded
  refine ⟨threshold, named, ?_⟩
  rw [run_setup, configured, Option.bind_some, Call.setup?, named]
  rfl

theorem simple_latest (simple : ∀ call ∈ before, Simple call.fields) :
    Simple ((before.filterMap Call.bound?).getLast?.getD []) := by
  cases latest : (before.filterMap Call.bound?).getLast? with
  | none => exact .nil
  | some fields =>
      obtain ⟨call, member, bound⟩ := List.mem_filterMap.mp (List.mem_of_getLast? latest)
      exact Call.fields_of_bound? bound ▸ simple call member

end Session

/-- Whatever calls came before, a call that tells an event leaves one line if its level reaches that
of the latest configuration that went through, and none if not or if the event is refused. The line
is in that configuration's format; an object in JSON, on one line, comes of the format for machines
alone. Its record has the event's own fields and those of the latest binding that these leave free,
and no other, so that a transition always goes by its own server. -/
theorem lines_of_latest {before : List Call} {call : Call} {logger level format : String}
    {event : Event} (simple : ∀ made ∈ before ++ [call], Simple made.fields)
    (configured : (before.filter Call.setsUp).getLast? = some (.configure level format))
    (tells : call.Tells logger event) :
    let bound := (before.filterMap Call.bound?).getLast?.getD []
    let outcome := (silent.run before).sink.apply call
    (silent.run (before ++ [call])).lines = (silent.run before).lines ++ outcome.lines ∧
      (outcome.failure ≠ none ↔ Refused event bound) ∧
      (Refused event bound → outcome.lines = []) ∧
      (¬ Refused event bound → ∃ threshold r line,
        severity? (Text.upper level) = some threshold ∧
        outcome.lines = (if threshold ≤ event.level.severity then [line] else []) ∧
        Record.Carries r logger event bound ∧ Line.Renders line format r ∧
        ∀ name server lsn inEffect, call = .transition logger name server lsn inEffect →
          r.field? "server" = some server) := by
  intro bound outcome
  have own : Simple event.fields :=
    tells.fields_eq ▸ simple call (List.mem_append_right before List.mem_cons_self)
  obtain ⟨threshold, named, setup⟩ := exists_threshold configured
  have held : (silent.run before).sink.bound = bound := run_bound before
  have free : Simple (silent.run before).sink.bound :=
    held ▸ simple_latest fun call member => simple call (List.mem_append_left _ member)
  have lines : (silent.run (before ++ [call])).lines =
      (silent.run before).lines ++ outcome.lines := by rw [run_concat]
  by_cases refused : Refused event bound
  · obtain ⟨failure, applied⟩ := apply_refused tells setup own free (held ▸ refused)
    have failed : outcome.failure ≠ none := by
      rw [show outcome = _ from applied]
      nofun
    have none : outcome.lines = [] := congrArg Outcome.lines applied
    exact ⟨lines, iff_of_true failed refused, fun _ => none, fun told => absurd refused told⟩
  · obtain ⟨line, renders, applied⟩ := apply_told tells setup own free (held ▸ refused)
    have succeeded : outcome.failure = none := congrArg Outcome.failure applied
    have carries := Record.carries_ofEvent logger own free
    rw [held] at renders carries
    refine ⟨lines, iff_of_false (not_not.mpr succeeded) refused, fun told => absurd told refused,
      fun _ => ⟨threshold, _, line, named, congrArg Outcome.lines applied, carries, renders, ?_⟩⟩
    rintro name server lsn inEffect rfl
    cases tells
    rw [carries.fields]
    rfl

/-- A transition goes by its own server, with another source bound and a configuration that failed
in between. -/
theorem lines_of_latest_transition :
    let before : List Call :=
      [.configure "debug" "console", .bind [("server", .string "up"), ("k", .int 1)],
        .configure "Info" "json", .configure "loud" "console",
        .bindSource (.string "up") (.string "db")]
    let call : Call := .transition "x" "started" (.string "pg1") (.int 5) (.bool true)
    (∀ made ∈ before ++ [call], Simple made.fields) ∧
      (before.filter Call.setsUp).getLast? = some (.configure "Info" "json") ∧
      ∃ r line,
        (silent.run (before ++ [call])).lines = (silent.run before).lines ++ [line] ∧
          Line.Renders line "json" r ∧ r.field? "server" = some (.string "pg1") ∧
          r.field? "db" = some (.string "db") ∧ r.field? "k" = none := by
  intro before call
  have simple : ∀ made ∈ before ++ [call], Simple made.fields := by decide +kernel
  have configured :
      (before.filter Call.setsUp).getLast? = some (.configure "Info" "json") := by decide +kernel
  have told : ((silent.run before).sink.apply call).failure = none := by decide +kernel
  obtain ⟨lines, refused, -, accepted⟩ :=
    lines_of_latest simple configured (.transition : call.Tells "x" _)
  obtain ⟨threshold, r, line, named, written, carries, renders, own⟩ :=
    accepted (mt refused.mpr (not_not.mpr told))
  have low : threshold = 20 := Option.some.inj (named.symm.trans (by decide +kernel))
  subst low
  refine ⟨simple, configured, r, line, lines.trans (congrArg _ written), renders,
    own _ _ _ _ rfl, ?_, ?_⟩
  · exact (carries.fields "db").trans (by decide +kernel)
  · exact (carries.fields "k").trans (by decide +kernel)

/-- Names and values that cost the line. -/
theorem lines_nil_of_refused :
    let told (fields : List (String × Value)) : List Call :=
      [.configure "INFO" "json", .tell "x" (.plain .info) "e" fields]
    (silent.run (told [])).lines ≠ [] ∧
      ∀ fields ∈ [[("self", Value.int 1)], [("method_name", .int 1)], [("_record", .int 1)],
          [("n", .int (Nat.pow 10 Text.Numeral.digitLimit))]],
        (∀ call ∈ told fields, Simple call.fields) ∧ (silent.run (told fields)).lines = [] := by
  decide +kernel

end Sink

end WalCheckpoint.Log
