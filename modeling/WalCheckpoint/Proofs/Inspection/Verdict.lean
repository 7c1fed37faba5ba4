import WalCheckpoint.Inspection.Standard
import WalCheckpoint.Proofs.Inspection.Ending

namespace WalCheckpoint.Inspection

/-! What a run that is configured makes of its file: where it ends in an exit, and what the exit and
the report say. -/

open StoredOffset (Content content unknownKeys)

theorem not_unforeseen_of_reportable {stored : Mapping} {o : Offset}
    (comparable : Value.areComparable (unknownKeys stored) = true)
    (read : Offset.read stored = .ok o) (reportable : o.position.Reportable) :
    ¬ Unforeseen (.offset stored) := by
  intro unforeseen
  cases unforeseen with
  | keys incomparable => rw [comparable] at incomparable; contradiction
  | value _ refused => rw [read] at refused; contradiction
  | position _ read' unreportable =>
      rw [read] at read'
      obtain rfl := Except.ok.inj read'
      exact unreportable reportable

variable {source : Source} {held : Content} {result : Except Breakdown Ending}

theorem Concludes.not_unforeseen {ending : Ending} (concludes : Concludes source held (.ok ending)) :
    ¬ Unforeseen held := by
  intro unforeseen
  cases concludes with
  | unreadable => contradiction
  | malformed foreseen =>
      cases unforeseen with
      | fault unforeseen => rw [foreseen] at unforeseen; contradiction
  | other => contradiction
  | untold comparable untellable =>
      cases unforeseen with
      | keys incomparable => rw [comparable] at incomparable; contradiction
      | value told => rw [untellable] at told; contradiction
      | position told => rw [untellable] at told; contradiction
  | refused comparable told refused tellable =>
      cases unforeseen with
      | keys incomparable => rw [comparable] at incomparable; contradiction
      | value _ refused' untellable =>
          rw [refused] at refused'
          obtain rfl := Except.error.inj refused'
          rw [tellable] at untellable
          contradiction
      | position _ read => rw [refused] at read; contradiction
  | reported comparable told read reportable =>
      exact not_unforeseen_of_reportable comparable read reportable unforeseen

theorem Concludes.exits_iff (concludes : Concludes source held result) :
    (∃ ending, result = .ok ending ∧ ending.exit.code ≤ 2) ↔ ¬ Unforeseen held := by
  cases result with
  | error breakdown =>
      cases concludes with
      | broken unforeseen => exact ⟨nofun, fun foreseen => absurd unforeseen foreseen⟩
  | ok ending =>
      refine ⟨fun _ => concludes.not_unforeseen, fun _ => ⟨ending, rfl, ?_⟩⟩
      cases ending.exit <;> decide

variable {environment : Environment} {arguments : Arguments} {settings : Settings}

/-- A run that is configured ends in an exit exactly where its port can be opened and its file holds
nothing unforeseen. -/
theorem run_exits_iff
    (configured : (Config.load environment.loading arguments.choices.config
      (.map arguments.overrides)).settings = .ok settings) :
    (∃ ending, (run environment arguments).ending = .ok ending ∧ ending.exit.code ≤ 2) ↔
      Opens environment settings ∧
        ¬ Unforeseen (content environment.documents environment.files arguments.file) := by
  by_cases opens : Opens environment settings
  · rw [and_iff_right opens]
    exact (run_concludes configured opens).exits_iff
  · rw [run_of_not_opens configured opens]
    exact iff_of_false nofun fun both => opens both.1

/-- The settings are in order, and a commit beyond the calendar breaks the run down. -/
theorem run_exits_iff_beyond_calendar :
    let text := "lsn: 1\ntxId: 2\nts_usec: 253402300800000000\n"
    let files : Files := [(".env", .file "".toUTF8), ("o.json", .file text.toUTF8)]
    let environment : Environment := .standard [] files
    let arguments : Arguments := ⟨"o.json", ⟨none, some "pg1", some "inv", none⟩⟩
    Arguments.read ["o.json", "--server=pg1", "--db=inv"] = .ok arguments ∧
      (Config.load environment.loading none (.map arguments.overrides)).settings.isOk = true ∧
      ¬ ∃ ending, (run environment arguments).ending = .ok ending ∧ ending.exit.code ≤ 2 := by
  intro text files environment arguments
  let stored := Mapping.ofFields
    [("lsn", .int 1), ("txId", .int 2), ("ts_usec", .int 253402300800000000)]
  have configured : (Config.load environment.loading arguments.choices.config
      (.map arguments.overrides)).settings = .ok ⟨⟨"pg1", "inv", by decide, by decide⟩,
        ⟨⟨9090, by decide, by decide⟩, false, .info, .json⟩⟩ := by decide +kernel
  have found : environment.files.bytes "o.json" = .ok text.toUTF8 := rfl
  have read : environment.documents.read text.toUTF8 = .ok (.alone (.map stored)) :=
    Document.eq_ok_alone_iff.mpr (by decide +kernel)
  have held := StoredOffset.content_of_read found read rfl
  refine ⟨by decide +kernel, by rw [configured]; rfl, ?_⟩
  rw [run_exits_iff configured, not_and_not_right, held]
  have reads : Offset.read stored =
      .ok ⟨⟨some 1, some 2, none, some 253402300800000000⟩, none⟩ := by decide +kernel
  refine fun _ => .position rfl reads fun reportable => ?_
  obtain ⟨-, last⟩ := reportable.commit 253402300800000000 rfl
  rw [Time.DateTime.lastMicros] at last
  omega

/-- Contents that count as unreadable. Keys that cannot be told are among them, though they are
read. -/
inductive Unreadable : Content → Prop
  | file {error : Files.OpenError} : Unreadable (.unreadable error)
  | document {fault : Yaml.Fault} : Unreadable (.malformed fault)
  | kind {document : Value} : Unreadable (.other document)
  | keys {stored : Mapping} (untellable : Value.areTellable (unknownKeys stored) = false) :
      Unreadable (.offset stored)

inductive Invalid : Content → Prop
  | refused {stored : Mapping} {error : Offset.ReadError}
      (told : Value.areTellable (unknownKeys stored) = true)
      (refused : Offset.read stored = .error error) :
      Invalid (.offset stored)

structure Ending.Faithful (source : Source) (held : Content) (ending : Ending) : Prop where
  unreadable : ending.exit = .unreadable ↔ Unreadable held
  invalid : ending.exit = .invalid ↔ Invalid held
  silent : ending.exit ≠ .ok → ending.text = ""
  reported : ending.exit = .ok → ∃ stored document, held = .offset stored ∧
    Json.read? ending.text = some (.map document) ∧ Report.Faithful source stored document

theorem not_unreadable_of_told {stored : Mapping}
    (told : Value.areTellable (unknownKeys stored) = true) : ¬ Unreadable (.offset stored) := by
  intro unreadable
  cases unreadable with
  | keys untellable => rw [told] at untellable; contradiction

theorem not_invalid_of_read {stored : Mapping} {o : Offset} (read : Offset.read stored = .ok o) :
    ¬ Invalid (.offset stored) := by
  intro invalid
  cases invalid with
  | refused _ refused => rw [read] at refused; contradiction

theorem Concludes.faithful {ending : Ending} (concludes : Concludes source held (.ok ending)) :
    ending.Faithful source held := by
  cases concludes with
  | unreadable => exact ⟨⟨fun _ => .file, fun _ => rfl⟩, ⟨nofun, nofun⟩, fun _ => rfl, nofun⟩
  | malformed => exact ⟨⟨fun _ => .document, fun _ => rfl⟩, ⟨nofun, nofun⟩, fun _ => rfl, nofun⟩
  | other => exact ⟨⟨fun _ => .kind, fun _ => rfl⟩, ⟨nofun, nofun⟩, fun _ => rfl, nofun⟩
  | untold comparable untellable =>
      refine ⟨⟨fun _ => .keys untellable, fun _ => rfl⟩, ⟨nofun, ?_⟩, fun _ => rfl, nofun⟩
      rintro ⟨told, -⟩
      exact absurd (.keys untellable) (not_unreadable_of_told told)
  | refused comparable told refused tellable =>
      exact ⟨⟨nofun, fun unreadable => absurd unreadable (not_unreadable_of_told told)⟩,
        ⟨fun _ => .refused told refused, fun _ => rfl⟩, fun _ => rfl, nofun⟩
  | reported comparable told read reportable written faithful =>
      exact ⟨⟨nofun, fun unreadable => absurd unreadable (not_unreadable_of_told told)⟩,
        ⟨nofun, fun invalid => absurd invalid (not_invalid_of_read read)⟩,
        fun other => absurd rfl other, fun _ => ⟨_, _, rfl, written, faithful⟩⟩

theorem Opens.of_ended {ending : Ending}
    (configured : (Config.load environment.loading arguments.choices.config
      (.map arguments.overrides)).settings = .ok settings)
    (ended : (run environment arguments).ending = .ok ending) : Opens environment settings := by
  by_contra fails
  rw [run_of_not_opens configured fails] at ended
  contradiction

/-- A run that is configured and ends in an exit says, by it and by the report, what its file
holds. -/
theorem run_faithful {ending : Ending}
    (configured : (Config.load environment.loading arguments.choices.config
      (.map arguments.overrides)).settings = .ok settings)
    (ended : (run environment arguments).ending = .ok ending) :
    ending.Faithful settings.source
      (content environment.documents environment.files arguments.file) := by
  have concludes := run_concludes configured (.of_ended configured ended)
  rw [ended] at concludes
  exact concludes.faithful

/-- Numbers as text and as a fraction, a marker that says no, and a key that no offset has. -/
theorem run_faithful_spelled :
    let text := "lsn: '12'\ntxId: 7.0\nsnapshot: false\nnote: x\n"
    let files : Files := [(".env", .file "".toUTF8), ("o.yaml", .file text.toUTF8)]
    let environment : Environment := .standard [] files
    let arguments : Arguments := ⟨"o.yaml", ⟨none, some "pg1", some "inv", none⟩⟩
    Arguments.read ["--server=pg1", "--db=inv", "o.yaml"] = .ok arguments ∧
      (Config.load environment.loading none (.map arguments.overrides)).settings.isOk = true ∧
      ∃ ending, (run environment arguments).ending = .ok ending ∧ ending.exit = .ok ∧
        ∃ document offset : Mapping, Json.read? ending.text = some (.map document) ∧
          document.field? "offset" = some (.map offset) ∧
          offset.field? "lsn" = some (.int 12) ∧ offset.field? "txId" = some (.int 7) ∧
          offset.field? "xmin" = none ∧ offset.field? "snapshot" = some (.bool true) := by
  intro text files environment arguments
  let stored := Mapping.ofFields [("lsn", .string "12"), ("txId", .float ⟨0x401C000000000000⟩),
    ("snapshot", .bool false), ("note", .string "x")]
  have configured : (Config.load environment.loading arguments.choices.config
      (.map arguments.overrides)).settings = .ok ⟨⟨"pg1", "inv", by decide, by decide⟩,
        ⟨⟨9090, by decide, by decide⟩, false, .info, .json⟩⟩ := by decide +kernel
  have found : environment.files.bytes "o.yaml" = .ok text.toUTF8 := rfl
  have read : environment.documents.read text.toUTF8 = .ok (.alone (.map stored)) :=
    Document.eq_ok_alone_iff.mpr (by decide +kernel)
  have held : content environment.documents environment.files "o.yaml" = .offset stored :=
    StoredOffset.content_of_read found read rfl
  have reads : Offset.read stored =
      .ok ⟨⟨some 12, some 7, none, none⟩, some ⟨none⟩⟩ := by decide +kernel
  have reportable : Position.Reportable ⟨some 12, some 7, none, none⟩ :=
    ⟨by decide +kernel, by decide +kernel, rfl, nofun⟩
  obtain ⟨ending, ended, -⟩ := (run_concludes configured fun _ => rfl).exits_iff.mpr
    (held ▸ not_unforeseen_of_reportable (by decide +kernel) reads reportable)
  obtain ⟨unreadable, invalid, -, reported⟩ := run_faithful configured ended
  rw [held] at unreadable invalid
  have exit : ending.exit = .ok := by
    cases exit : ending.exit with
    | ok => rfl
    | unreadable => exact absurd (unreadable.mp exit) (not_unreadable_of_told (by decide +kernel))
    | invalid => exact absurd (invalid.mp exit) (not_invalid_of_read reads)
  obtain ⟨stored', document, same, written, report⟩ := reported exit
  obtain rfl := Content.offset.inj (held.symm.trans same)
  obtain ⟨offset, shown, numbers, marker, -⟩ := report.offset
  refine ⟨by decide +kernel, by rw [configured]; rfl, ending, ended, exit, document, offset,
    written, shown, ?_, ?_, ?_, marker⟩
  · exact numbers "lsn" (by decide)
  · exact numbers "txId" (by decide)
  · exact numbers "xmin" (by decide)

/-- A load takes an offset whose only fault is a key that cannot be told. -/
example :
    let stored : Mapping := [(.string "lsn", .int 1), (.string "txId", .int 2),
      (.int (16 ^ 4000 - 1), .string "x")]
    (Offset.read stored).isOk = true ∧ Value.areComparable (unknownKeys stored) = true ∧
      Value.areTellable (unknownKeys stored) = false := by decide +kernel

end WalCheckpoint.Inspection
