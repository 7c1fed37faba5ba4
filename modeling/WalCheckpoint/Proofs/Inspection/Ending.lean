import WalCheckpoint.Proofs.Inspection.Content
import WalCheckpoint.Proofs.Inspection.Report
import WalCheckpoint.Proofs.Inspection.Step

namespace WalCheckpoint.Inspection

/-! How a run ends once it is configured. What is in the file decides it; the log and the
measurements have no part in it. -/

open StoredOffset (Content content unknownKeys)

/-- Contents that a run was not made for. -/
inductive Unforeseen : Content → Prop
  | fault {fault : Yaml.Fault} (unforeseen : fault.isForeseen = false) :
      Unforeseen (.malformed fault)
  | keys {stored : Mapping} (incomparable : Value.areComparable (unknownKeys stored) = false) :
      Unforeseen (.offset stored)
  | value {stored : Mapping} {error : Offset.ReadError}
      (told : Value.areTellable (unknownKeys stored) = true)
      (refused : Offset.read stored = .error error) (untellable : error.value.isTellable = false) :
      Unforeseen (.offset stored)
  | position {stored : Mapping} {o : Offset}
      (told : Value.areTellable (unknownKeys stored) = true) (read : Offset.read stored = .ok o)
      (unreportable : ¬ o.position.Reportable) :
      Unforeseen (.offset stored)

/-- How a run may end with what a file holds. -/
inductive Concludes (source : Source) : Content → Except Breakdown Ending → Prop
  | broken {held : Content} {breakdown : Breakdown} (unforeseen : Unforeseen held) :
      Concludes source held (.error breakdown)
  | unreadable {error : Files.OpenError} :
      Concludes source (.unreadable error) (.ok ⟨.unreadable, ""⟩)
  | malformed {fault : Yaml.Fault} (foreseen : fault.isForeseen = true) :
      Concludes source (.malformed fault) (.ok ⟨.unreadable, ""⟩)
  | other {document : Value} : Concludes source (.other document) (.ok ⟨.unreadable, ""⟩)
  | untold {stored : Mapping} (comparable : Value.areComparable (unknownKeys stored) = true)
      (untellable : Value.areTellable (unknownKeys stored) = false) :
      Concludes source (.offset stored) (.ok ⟨.unreadable, ""⟩)
  | refused {stored : Mapping} {error : Offset.ReadError}
      (comparable : Value.areComparable (unknownKeys stored) = true)
      (told : Value.areTellable (unknownKeys stored) = true)
      (refused : Offset.read stored = .error error) (tellable : error.value.isTellable = true) :
      Concludes source (.offset stored) (.ok ⟨.invalid, ""⟩)
  | reported {stored document : Mapping} {o : Offset} {text : String}
      (comparable : Value.areComparable (unknownKeys stored) = true)
      (told : Value.areTellable (unknownKeys stored) = true) (read : Offset.read stored = .ok o)
      (reportable : o.position.Reportable) (written : Json.read? text = some (.map document))
      (faithful : Report.Faithful source stored document) :
      Concludes source (.offset stored) (.ok ⟨.ok, text⟩)

variable {sink : Log.Sink} {settings : Settings} {stored : Mapping} {path : String}

theorem plain_unreadable (path : String) (message : Option String) :
    Log.Plain (Refused.unreadable path message).event.fields := by
  cases message with
  | none => exact .text (by decide) _ .nil
  | some message => exact .text (by decide) _ (.text (by decide) _ .nil)

theorem plain_initialized (source : Source) : Log.Plain (Tracker.initialized source).fields :=
  .text (by decide) _ (.text (by decide) _ .nil)

theorem ordinary_offsetLoaded (t : Tracker) : Log.Ordinary t.offsetLoaded.fields := by
  refine .cons (by decide) rfl (.cons (by decide) ?_ (.cons (by decide) ?_
    (.cons (by decide) rfl (.cons (by decide) ?_ .nil))))
  · cases t.position.lsn <;> rfl
  · cases t.position.txId <;> rfl
  · cases t.lastRecord <;> rfl

theorem isTellable_offsetLoaded (t : Tracker) :
    t.offsetLoaded.isTellable = (Offset.ofOptionalInt t.position.txId).isTellable := by
  have lsn : (t.position.lsn.elim Value.null fun n => .string (Lsn.format n)).isTellable = true := by
    cases t.position.lsn <;> rfl
  have lastRecord : (Offset.ofOptionalBool t.lastRecord).isTellable = true := by
    cases t.lastRecord <;> rfl
  simp only [Log.Event.isTellable, Tracker.offsetLoaded, List.all_cons, List.all_nil, lsn,
    lastRecord]
  exact (Bool.true_and _).trans ((Bool.true_and _).trans (Bool.and_true _))

theorem yields_report_refused (plain : Log.Plain sink.bound) {error : Offset.ReadError}
    (refused : Offset.read stored = .error error) :
    Yields (report settings path stored) sink
      (if error.value.isTellable then .ok ⟨.invalid, ""⟩
        else .error (.report (.unreadableOffset error))) sink := by
  have told := yields_tellAll_plain plain trackerLogger
    (List.forall_mem_singleton.mpr (plain_initialized settings.source))
  rw [report, inspect_of_refused settings.source refused]
  refine told.bind ?_
  dsimp only
  rw [Refused.ofReport, ← Offset.message?_isSome]
  cases error.message? with
  | none => exact yields_throw _
  | some message =>
      exact yields_refuse plain _ (.text (by decide) _ (.text (by decide) _ .nil))

theorem ofTracker_error {t : Tracker} {failure : Report.Failure}
    (failed : Report.ofTracker t = .error failure) : Refused.ofReport path failure = none := by
  rw [Report.ofTracker] at failed
  cases recovered : t.recovery with
  | error error =>
      rw [recovered] at failed
      obtain rfl := Except.error.inj failed
      rfl
  | ok recovery =>
      rw [recovered] at failed
      cases described : t.describe? with
      | none =>
          rw [described] at failed
          obtain rfl := Except.error.inj failed
          rfl
      | some description =>
          rw [described] at failed
          contradiction

theorem yields_tell_loaded (plain : Log.Plain sink.bound) (source : Source) (t : Tracker) :
    Yields (tellAll trackerLogger [Tracker.initialized source, t.offsetLoaded]) sink
      (if (Offset.ofOptionalInt t.position.txId).isTellable then .ok () else .error untold) sink := by
  have told := yields_tellAll plain trackerLogger (List.forall_mem_cons.mpr
    ⟨(plain_initialized source).ordinary, List.forall_mem_singleton.mpr (ordinary_offsetLoaded t)⟩)
  have initialized : (Tracker.initialized source).isTellable = true :=
    (plain_initialized source).tellable
  rwa [List.all_cons, List.all_cons, List.all_nil, isTellable_offsetLoaded, initialized,
    Bool.true_and, Bool.and_true] at told

theorem yields_report_loaded (plain : Log.Plain sink.bound) {t : Tracker}
    (inspected : inspect settings.source stored =
      ⟨[Tracker.initialized settings.source, t.offsetLoaded], Report.ofTracker t⟩)
    {r : Report} {text : String} (reportable : t.position.Reportable)
    (made : Report.ofTracker t = .ok r) (written : r.text? = .ok text) :
    Yields (report settings path stored) sink (.ok ⟨.ok, text⟩) sink := by
  have told := yields_tell_loaded plain settings.source t
  rw [reportable.txId] at told
  rw [report, inspected, made]
  refine told.bind ?_
  dsimp only
  rw [written]
  exact yields_pure _

theorem yields_report_broken (plain : Log.Plain sink.bound) {t : Tracker}
    (inspected : inspect settings.source stored =
      ⟨[Tracker.initialized settings.source, t.offsetLoaded], Report.ofTracker t⟩)
    (unreportable : ¬ t.position.Reportable) :
    ∃ breakdown, Yields (report settings path stored) sink (.error breakdown) sink := by
  have told := yields_tell_loaded plain settings.source t
  rw [report, inspected]
  cases tellable : (Offset.ofOptionalInt t.position.txId).isTellable with
  | false =>
      rw [tellable] at told
      exact ⟨_, told.bind_error⟩
  | true =>
      rw [tellable] at told
      cases made : Report.ofTracker t with
      | error failure =>
          refine ⟨.report failure, told.bind ?_⟩
          dsimp only
          rw [ofTracker_error made]
          exact yields_throw _
      | ok r =>
          cases written : r.text? with
          | error error =>
              refine ⟨.unwritable error, told.bind ?_⟩
              dsimp only
              rw [written]
              exact yields_throw _
          | ok text =>
              exact absurd ((Report.reportable_iff t).mpr ⟨r, text, made, written⟩) unreportable

theorem report_concludes_of_read (plain : Log.Plain sink.bound)
    (comparable : Value.areComparable (unknownKeys stored) = true)
    (told : Value.areTellable (unknownKeys stored) = true) {o : Offset}
    (hread : Offset.read stored = .ok o) :
    ∃ result, Yields (report settings path stored) sink result sink ∧
      Concludes settings.source (.offset stored) result := by
  let t := (Tracker.start settings.source).withOffset o
  have inspected := inspect_of_read settings.source hread
  by_cases reportable : o.position.Reportable
  · obtain ⟨r, text, made, written⟩ := (Report.reportable_iff t).mp reportable
    obtain ⟨shows_, -⟩ := Report.shows_of_ofTracker made
    obtain ⟨document, shown, faithful⟩ := Report.faithful_of_read hread shows_
    have plainValue := Report.plain_toValue shows_ reportable
    refine ⟨_, yields_report_loaded plain inspected reportable made written,
      .reported comparable told hread reportable ?_ faithful⟩
    rw [Report.text?_of_plain plainValue] at written
    obtain rfl := Except.ok.inj written
    have read := Json.read?_write plainValue (.indented 2)
      (List.forall_mem_singleton (a := '\n') |>.mpr rfl)
    rw [String.ofList_append] at read
    exact read.trans (congrArg some shown)
  · obtain ⟨breakdown, yields⟩ := yields_report_broken plain inspected reportable
    exact ⟨_, yields, .broken (.position told hread reportable)⟩

theorem report_concludes (plain : Log.Plain sink.bound)
    (comparable : Value.areComparable (unknownKeys stored) = true)
    (told : Value.areTellable (unknownKeys stored) = true) :
    ∃ result, Yields (report settings path stored) sink result sink ∧
      Concludes settings.source (.offset stored) result := by
  cases hread : Offset.read stored with
  | ok o => exact report_concludes_of_read plain comparable told hread
  | error error =>
      have refused : Yields (report settings path stored) sink _ sink :=
        yields_report_refused plain hread
      cases tellable : error.value.isTellable with
      | false =>
          rw [tellable] at refused
          exact ⟨_, refused, .broken (.value told hread tellable)⟩
      | true =>
          rw [tellable] at refused
          exact ⟨_, refused, .refused comparable told hread tellable⟩

section File

variable {environment : Environment} {failure : StoredOffset.Failure}

theorem yields_inspectFile_failed (plain : Log.Plain sink.bound)
    (failed : StoredOffset.read environment.documents environment.files path =
      ⟨[], .error failure⟩) {message : Option String}
    (refused : Refused.ofStored path failure = some (Refused.unreadable path message)) :
    Yields (inspectFile environment settings path) sink (.ok ⟨.unreadable, ""⟩) sink := by
  rw [inspectFile, failed]
  refine (yields_warn plain path (List.forall_mem_nil _)).bind ?_
  dsimp only
  rw [refused]
  exact yields_refuse plain _ (plain_unreadable path message)

theorem yields_inspectFile_broken (plain : Log.Plain sink.bound)
    (failed : StoredOffset.read environment.documents environment.files path =
      ⟨[], .error failure⟩) (unforeseen : Refused.ofStored path failure = none) :
    Yields (inspectFile environment settings path) sink (.error (.stored failure)) sink := by
  rw [inspectFile, failed]
  refine (yields_warn plain path (List.forall_mem_nil _)).bind ?_
  dsimp only
  rw [unforeseen]
  exact yields_throw _

/-- The warning about unknown keys comes first, so keys that cannot be told hide what else is in
the file. -/
theorem inspectFile_concludes_of_offset (plain : Log.Plain sink.bound)
    (held : content environment.documents environment.files path = .offset stored) :
    ∃ result, Yields (inspectFile environment settings path) sink result sink ∧
      Concludes settings.source (.offset stored) result := by
  have outcome := StoredOffset.read_eq_outcome environment.documents environment.files path
  rw [held, StoredOffset.Content.outcome] at outcome
  cases comparable : Value.areComparable (unknownKeys stored) with
  | false =>
      rw [StoredOffset.ofMapping_of_incomparable comparable] at outcome
      exact ⟨_, yields_inspectFile_broken plain outcome rfl, .broken (.keys comparable)⟩
  | true =>
      obtain ⟨events, mapped, ordinary, told⟩ := StoredOffset.ofMapping_of_comparable
        (StoredOffset.hasScalarKeys_of_content held) comparable path
      rw [mapped] at outcome
      have warned := yields_warn plain path ordinary
      rw [told] at warned
      rw [inspectFile, outcome]
      cases tellable : Value.areTellable (unknownKeys stored) with
      | false =>
          rw [tellable] at warned
          exact ⟨_, warned.bind (yields_refuse plain _ (plain_unreadable path none)),
            .untold comparable tellable⟩
      | true =>
          rw [tellable] at warned
          obtain ⟨result, yields, concludes⟩ := report_concludes plain comparable tellable
          exact ⟨result, warned.bind yields, concludes⟩

theorem inspectFile_concludes (plain : Log.Plain sink.bound) (environment : Environment)
    (path : String) :
    ∃ result, Yields (inspectFile environment settings path) sink result sink ∧
      Concludes settings.source (content environment.documents environment.files path) result := by
  have outcome := StoredOffset.read_eq_outcome environment.documents environment.files path
  cases held : content environment.documents environment.files path with
  | unreadable error =>
      rw [held] at outcome
      exact ⟨_, yields_inspectFile_failed plain outcome rfl, .unreadable⟩
  | malformed fault =>
      rw [held] at outcome
      cases foreseen : fault.isForeseen with
      | false =>
          refine ⟨_, yields_inspectFile_broken plain outcome ?_, .broken (.fault foreseen)⟩
          rw [Refused.ofStored, foreseen]
          rfl
      | true =>
          have refused : Refused.ofStored path (.malformed fault) =
              some (Refused.unreadable path none) := by
            rw [Refused.ofStored, foreseen]
            rfl
          exact ⟨_, yields_inspectFile_failed plain outcome refused, .malformed foreseen⟩
  | other document =>
      rw [held] at outcome
      exact ⟨_, yields_inspectFile_failed plain outcome rfl, .other⟩
  | offset stored => exact inspectFile_concludes_of_offset plain held

end File

theorem plain_fileEvent (level : Log.Level) (name path : String) :
    ∀ event ∈ [Config.fileEvent level name path], Log.Plain event.fields :=
  List.forall_mem_singleton.mpr (.text (by decide) _ .nil)

theorem plain_malformedEvents (path : String) (fault : Yaml.Fault) :
    ∀ event ∈ Config.malformedEvents path fault, Log.Plain event.fields := by
  cases fault with
  | malformed => exact plain_fileEvent _ _ _
  | _ => exact List.forall_mem_nil _

theorem plain_ofDocument (path : String) (document : Document) :
    ∀ event ∈ (Config.ofDocument path document).events, Log.Plain event.fields := by
  rw [Config.ofDocument]
  split
  · exact plain_fileEvent _ _ _
  · split
    · exact plain_fileEvent _ _ _
    · exact List.forall_mem_nil _

theorem plain_fileEvents (documents : Yaml.Reader) (files : Files) (path : Option String) :
    ∀ event ∈ (Config.fileAt documents files path).events, Log.Plain event.fields := by
  rw [Config.fileAt.eq_def]
  split
  · exact List.forall_mem_nil _
  · exact List.forall_mem_nil _
  · next path _ =>
      rw [Config.readAt]
      cases files.bytes path with
      | error error => cases error <;> exact List.forall_mem_nil _
      | ok bytes =>
          dsimp only
          cases documents.read bytes with
          | error fault => exact plain_malformedEvents path fault
          | ok document => exact plain_ofDocument path document

theorem plain_configEvents (environment : Config.Environment) (path : Option String)
    (overrides : Value) :
    ∀ event ∈ (Config.load environment path overrides).events, Log.Plain event.fields := by
  have file := plain_fileEvents environment.documents environment.files path
  rw [Config.load]
  cases (Config.fileAt environment.documents environment.files path).config with
  | error failure => exact file
  | ok config =>
      dsimp only
      cases Config.overridden? config overrides with
      | none => exact file
      | some given =>
          dsimp only [Config.loadGiven]
          cases Settings.read environment.reading given with
          | error failure => exact file
          | ok settings =>
              exact List.forall_mem_append.mpr ⟨file, List.forall_mem_singleton.mpr
                (.text (by decide) _ (.text (by decide) _ (.cons (by decide) rfl rfl .nil)))⟩

section Run

variable {environment : Environment} {arguments : Arguments}

theorem yields_openEndpoint (plain : Log.Plain sink.bound) {port : Settings.Port}
    (opens : environment.opens port = true) :
    Yields (openEndpoint environment port) sink (.ok ()) sink := by
  have tellable : (Value.int port.val).isTellable = true := by
    have highest : port.val ≤ 65535 := port.property.2
    exact Value.isTellable_of_natAbs_lt (by omega)
  have started : Log.Plain (Metrics.endpointStarted (.int port.val)).fields :=
    .cons (by decide) rfl tellable .nil
  rw [openEndpoint, if_pos opens]
  exact .bind (yields_modify fun _ same => same) (yields_tell_plain plain metricsLogger started)

theorem yields_openEndpoint_broken {port : Settings.Port}
    (fails : ¬ environment.opens port = true) :
    Yields (openEndpoint environment port) sink (.error (.endpoint port)) sink := by
  rw [openEndpoint, if_neg fails]
  exact yields_throw _

/-- The port that the measurements of a run are offered at, if they are offered at all, can be
opened. -/
def Opens (environment : Environment) (settings : Settings) : Prop :=
  settings.observability.metricsEnabled = true →
    environment.opens settings.observability.metricsPort = true

/-- What comes after the settings are there. -/
theorem run_of_configured
    (configured : (Config.load environment.loading arguments.choices.config
      (.map arguments.overrides)).settings = .ok settings) {result : Except Breakdown Ending}
    (yields : Yields (do
        if settings.observability.metricsEnabled then
          openEndpoint environment settings.observability.metricsPort
        inspectFile environment settings arguments.file)
      (Progress.start.follow settings).sink result (Progress.start.follow settings).sink) :
    (run environment arguments).ending = result := by
  have started : Log.Plain Progress.start.sink.bound := .nil
  have events := plain_configEvents environment.loading arguments.choices.config
    (.map arguments.overrides)
  have follows : Yields (modify (Progress.follow settings)) Progress.start.sink (.ok ())
      (Progress.start.follow settings).sink :=
    yields_modify fun progress same => by
      dsimp only [Progress.follow]
      rw [same]
  -- Lines and ports pile up on the way, but only the way the log is set up bears on what follows.
  have yields : Yields (steps environment arguments) Progress.start.sink result
      (Progress.start.follow settings).sink := by
    rw [steps]
    refine .bind (yields_tellAll_plain started configLogger events)
      (.bind (yields_modify fun _ same => same) ?_)
    rw [configured]
    exact .bind follows yields
  exact (yields Progress.start rfl).1

/-- Once it is configured, and unless its port cannot be opened, a run ends by what is in the
file. -/
theorem run_concludes
    (configured : (Config.load environment.loading arguments.choices.config
      (.map arguments.overrides)).settings = .ok settings) (opens : Opens environment settings) :
    Concludes settings.source (content environment.documents environment.files arguments.file)
      (run environment arguments).ending := by
  have plain : Log.Plain (Progress.start.follow settings).sink.bound :=
    .text (by decide) _ (.text (by decide) _ .nil)
  obtain ⟨result, inspected, concludes⟩ :
      ∃ result, Yields (inspectFile environment settings arguments.file)
          (Progress.start.follow settings).sink result (Progress.start.follow settings).sink ∧
        Concludes settings.source
          (content environment.documents environment.files arguments.file) result :=
    inspectFile_concludes plain environment arguments.file
  have ending : (run environment arguments).ending = result := by
    refine run_of_configured configured ?_
    split
    · next enabled => exact .bind (yields_openEndpoint plain (opens enabled)) inspected
    · exact inspected
  rw [ending]
  exact concludes

theorem run_of_not_opens
    (configured : (Config.load environment.loading arguments.choices.config
      (.map arguments.overrides)).settings = .ok settings)
    (fails : ¬ Opens environment settings) :
    (run environment arguments).ending =
      .error (.endpoint settings.observability.metricsPort) := by
  obtain ⟨enabled, unopened⟩ := Classical.not_imp.mp fails
  refine run_of_configured configured ?_
  rw [if_pos enabled]
  exact (yields_openEndpoint_broken unopened).bind_error

end Run

end WalCheckpoint.Inspection
