import WalCheckpoint.Inspection.Arguments
import WalCheckpoint.Inspection.Standard
import WalCheckpoint.Proofs.Config.Failure
import WalCheckpoint.Proofs.Document
import WalCheckpoint.Proofs.Settings.Precedence

namespace WalCheckpoint

open Settings

/-! Settings that are loaded from a configuration, with what arguments lay over it. -/

namespace Inspection.Arguments

theorem mem_given {field : String} {value : Option String} {entry : String × Value}
    (member : entry ∈ given field value) : ∃ text, entry = (field, .string text) := by
  cases value with
  | none => exact absurd member List.not_mem_nil
  | some text =>
      rw [given] at member
      split at member
      · exact absurd member List.not_mem_nil
      · exact ⟨text, List.mem_singleton.mp member⟩

theorem textFields_given (field : String) (small : Text.lower field = field)
    (letter : field.toList.head? ≠ some '_') (value : Option String) :
    TextFields (given field value) := by
  cases value with
  | none => exact .nil
  | some text =>
      rw [given]
      split
      · exact .nil
      · exact .single small letter ⟨text, rfl⟩

theorem mem_sectionOf {heading : String} {fields : List (String × Value)} {part : String × Value}
    (member : part ∈ sectionOf heading fields) :
    part = (heading, .map (Mapping.ofFields fields)) := by
  cases fields with
  | nil => exact absurd member List.not_mem_nil
  | cons field more => exact List.mem_singleton.mp member

theorem textSections_sectionOf (heading : String) (small : Text.lower heading = heading)
    (letter : heading.toList.head? ≠ some '_') {fields : List (String × Value)}
    (texts : TextFields fields) :
    TextSections (sectionOf heading fields) := by
  cases fields with
  | nil => exact .nil
  | cons field more => exact .single small letter ⟨_, rfl, texts⟩

/-- What arguments lay over a configuration is texts in sections, all under names in small letters. -/
theorem exists_textSections (arguments : Arguments) :
    ∃ sections, arguments.overrides = Mapping.ofFields sections ∧ TextSections sections := by
  have server := textFields_given serverField.name (lower_fields _ (by decide)) (by decide)
    arguments.choices.server
  have database := textFields_given databaseField.name (lower_fields _ (by decide)) (by decide)
    arguments.choices.database
  have level := textFields_given levelField.name (lower_fields _ (by decide)) (by decide)
    (arguments.choices.logLevel.map Text.upper)
  have names := Spelled.append server database fun field member field' member' => by
    obtain ⟨text, rfl⟩ := mem_given member
    obtain ⟨text', rfl⟩ := mem_given member'
    exact (by decide : serverField.name ≠ databaseField.name)
  have source := textSections_sectionOf sourceName (lower_headings _ (by decide)) (by decide)
    names
  have observability := textSections_sectionOf observabilityName (lower_headings _ (by decide))
    (by decide) level
  refine ⟨_, rfl, Spelled.append source observability fun part member part' member' => ?_⟩
  rw [mem_sectionOf member, mem_sectionOf member']
  exact (by decide : sourceName ≠ observabilityName)

end Inspection.Arguments

namespace Config

variable {environment : Environment} {path : Option String} {config : Mapping}
  {arguments : Inspection.Arguments}

theorem config_readAt {documents : Yaml.Reader} {files : Files} {named : String} {bytes : ByteArray}
    (found : files.bytes named = .ok bytes)
    (read : documents.read bytes = .ok (.alone (.map config))) :
    (readAt documents files named).config = .ok (Document.entriesAlone config) := by
  rw [readAt, found]
  dsimp only
  rw [read]
  rfl

theorem load_ok_iff (single : SingleSettings environment.vars)
    (unfiled : environment.files.text variableFileName = .error .notFound ∨
      environment.files.text variableFileName = .error .directory)
    (held : (fileAt environment.documents environment.files path).config =
      .ok (Document.entriesAlone config))
    (regular : Regular config arguments.overrides) (settings : Settings) :
    (load environment path (.map arguments.overrides)).settings = .ok settings ↔
      (WellFormed (config.overlay arguments.overrides) sourceName sourceFields ∧
        (Setting.server.effective? environment.vars config arguments.overrides).map Subtype.val =
          some settings.source.server ∧
        (Setting.database.effective? environment.vars config arguments.overrides).map Subtype.val =
          some settings.source.database) ∧
      WellFormed (config.overlay arguments.overrides) observabilityName observabilityFields ∧
        Setting.metricsPort.effective? environment.vars config arguments.overrides =
          some settings.observability.metricsPort ∧
        Setting.metricsEnabled.effective? environment.vars config arguments.overrides =
          some settings.observability.metricsEnabled ∧
        Setting.logLevel.effective? environment.vars config arguments.overrides =
          some settings.observability.logLevel ∧
        Setting.logFormat.effective? environment.vars config arguments.overrides =
          some settings.observability.logFormat := by
  obtain ⟨sections, laid, texts⟩ := arguments.exists_textSections
  rw [laid] at regular ⊢
  have loaded : (load environment path (.map (Mapping.ofFields sections))).settings =
      (Settings.read environment.reading
        (config.overlay (Mapping.ofFields sections))).mapError .settings := by
    rw [load, held]
    dsimp only [overridden?]
    rw [settings_loadGiven, laidOver, Document.entryValues_lay_entriesAlone]
  have same := given?_eq_field? (regular.source.overlay texts.small)
    (lower_headings sourceName (by decide))
  rw [loaded, ← readFrom_source_iff single texts regular,
    ← readFrom_observability_iff single texts regular,
    ← read_ok_iff ⟨single, unfiled⟩ (regular.lettered.overlay texts.letter) same]
  cases Settings.read environment.reading (config.overlay (Mapping.ofFields sections)) <;>
    simp [Except.mapError]

/-- From a configuration each part of which stands at one place, settings are loaded exactly where
both sections are well-formed and a valid value counts for each setting, and they hold these
values. -/
theorem load_effective (single : SingleSettings environment.vars)
    (unfiled : environment.files.text variableFileName = .error .notFound ∨
      environment.files.text variableFileName = .error .directory)
    (held : (fileAt environment.documents environment.files path).config =
      .ok (Document.entriesAlone config))
    (regular : Regular config arguments.overrides) :
    ((∃ settings, (load environment path (.map arguments.overrides)).settings = .ok settings) ↔
      WellFormed (config.overlay arguments.overrides) sourceName sourceFields ∧
      WellFormed (config.overlay arguments.overrides) observabilityName observabilityFields ∧
      (Setting.server.effective? environment.vars config arguments.overrides).isSome ∧
      (Setting.database.effective? environment.vars config arguments.overrides).isSome ∧
      (Setting.metricsPort.effective? environment.vars config arguments.overrides).isSome ∧
      (Setting.metricsEnabled.effective? environment.vars config arguments.overrides).isSome ∧
      (Setting.logLevel.effective? environment.vars config arguments.overrides).isSome ∧
      (Setting.logFormat.effective? environment.vars config arguments.overrides).isSome) ∧
    ∀ settings, (load environment path (.map arguments.overrides)).settings = .ok settings →
      (Setting.server.effective? environment.vars config arguments.overrides).map Subtype.val =
        some settings.source.server ∧
      (Setting.database.effective? environment.vars config arguments.overrides).map Subtype.val =
        some settings.source.database ∧
      Setting.metricsPort.effective? environment.vars config arguments.overrides =
        some settings.observability.metricsPort ∧
      Setting.metricsEnabled.effective? environment.vars config arguments.overrides =
        some settings.observability.metricsEnabled ∧
      Setting.logLevel.effective? environment.vars config arguments.overrides =
        some settings.observability.logLevel ∧
      Setting.logFormat.effective? environment.vars config arguments.overrides =
        some settings.observability.logFormat := by
  have loads := load_ok_iff single unfiled held regular
  refine ⟨⟨?_, ?_⟩, ?_⟩
  · rintro ⟨settings, loaded⟩
    obtain ⟨⟨source, server, database⟩, observability, port, enabled, level, format⟩ :=
      (loads settings).mp loaded
    have some_of_map {value : Option Name} {name : String}
        (counts : value.map Subtype.val = some name) : value.isSome = true := by
      rw [← Option.isSome_map, counts]
      rfl
    exact ⟨source, observability, some_of_map server, some_of_map database, port ▸ rfl,
      enabled ▸ rfl, level ▸ rfl, format ▸ rfl⟩
  · rintro ⟨source, observability, server, database, port, enabled, level, format⟩
    obtain ⟨server, hserver⟩ := Option.isSome_iff_exists.mp server
    obtain ⟨database, hdatabase⟩ := Option.isSome_iff_exists.mp database
    obtain ⟨port, hport⟩ := Option.isSome_iff_exists.mp port
    obtain ⟨enabled, henabled⟩ := Option.isSome_iff_exists.mp enabled
    obtain ⟨level, hlevel⟩ := Option.isSome_iff_exists.mp level
    obtain ⟨format, hformat⟩ := Option.isSome_iff_exists.mp format
    refine ⟨⟨⟨server.val, database.val, server.ne_empty, database.ne_empty⟩,
      ⟨port, enabled, level, format⟩⟩, (loads _).mpr ⟨⟨source, ?_, ?_⟩, observability, hport, henabled,
        hlevel, hformat⟩⟩
    · rw [hserver]
      rfl
    · rw [hdatabase]
      rfl
  · intro settings loaded
    obtain ⟨⟨-, server, database⟩, -, observability⟩ := (loads settings).mp loaded
    exact ⟨server, database, observability⟩

/-- One name is laid over the file's, the other is the file's and not the variable's, and the level of
the log is the variable's. -/
theorem load_effective_layered :
    let text := "source: \x7bserver_name: file, database_name: inv\x7d\n"
    let files : Files := [(".env", .directory), ("config.yaml", .file text.toUTF8)]
    let vars := [("HOME", "/"), ("CDC_SOURCE_DATABASE_NAME", "env"), ("CDC_LOG_LEVEL", "DEBUG")]
    let environment : Environment := .standard vars files
    let arguments : Inspection.Arguments := ⟨"o.yaml", ⟨some "config.yaml", some "cli", none, none⟩⟩
    ∃ settings, (load environment arguments.choices.config
      (.map arguments.overrides)).settings = .ok settings ∧
        settings.source.server = "cli" ∧ settings.source.database = "inv" ∧
        settings.observability.metricsPort.val = 9090 ∧ settings.observability.logLevel = .debug := by
  intro text files vars environment arguments
  let fields := [("server_name", Value.string "file"), ("database_name", .string "inv")]
  let config := Mapping.ofFields [("source", .map (Mapping.ofFields fields))]
  have single : SingleSettings environment.vars := ⟨by decide, by decide +kernel⟩
  have unfiled : environment.files.text variableFileName = .error .directory := by decide +kernel
  have read : Yaml.standard.read text.toUTF8 = .ok (.alone (.map config)) :=
    Document.eq_ok_alone_iff.mpr (by decide +kernel)
  have found : files.bytes "config.yaml" = .ok text.toUTF8 := rfl
  have held : (fileAt environment.documents environment.files arguments.choices.config).config =
      .ok (Document.entriesAlone config) := config_readAt found read
  have names : Spelled (fun _ => True) fields :=
    ⟨by decide, by decide +kernel, by decide, fun _ _ => trivial⟩
  have heading : Spelled (fun _ => True) [("source", .map (Mapping.ofFields fields))] :=
    .single (by decide +kernel) (by decide) trivial
  have regular : Regular config arguments.overrides :=
    .of_spelled heading
      (List.forall_mem_singleton.mpr fun _ same => ⟨_, (Value.map.inj same).symm, names⟩) _
  have source : WellFormed (config.overlay arguments.overrides) sourceName sourceFields :=
    wellFormed_iff.mpr ⟨Mapping.ofFields [("server_name", .string "cli"),
      ("database_name", .string "inv")], by decide +kernel,
      List.forall_mem_cons.mpr ⟨⟨_, rfl, by decide +kernel⟩,
        List.forall_mem_singleton.mpr ⟨_, rfl, by decide +kernel⟩⟩⟩
  have observability : WellFormed (config.overlay arguments.overrides) observabilityName
      observabilityFields := wellFormed_iff.mpr ⟨[], by decide +kernel, nofun⟩
  have server : Setting.server.effective? environment.vars config arguments.overrides =
      some ⟨"cli", by decide⟩ := by decide +kernel
  have database : Setting.database.effective? environment.vars config arguments.overrides =
      some ⟨"inv", by decide⟩ := by decide +kernel
  have port : Setting.metricsPort.effective? environment.vars config arguments.overrides =
      some ⟨9090, by decide, by decide⟩ := by decide +kernel
  have enabled : Setting.metricsEnabled.effective? environment.vars config arguments.overrides =
      some false := by decide +kernel
  have level : Setting.logLevel.effective? environment.vars config arguments.overrides =
      some .debug := by decide +kernel
  have format : Setting.logFormat.effective? environment.vars config arguments.overrides =
      some .json := by decide +kernel
  obtain ⟨loads, effective⟩ := load_effective single (.inr unfiled) held regular
  rw [server, database, port, enabled, level, format] at loads effective
  obtain ⟨settings, loaded⟩ := loads.mpr ⟨source, observability, rfl, rfl, rfl, rfl, rfl, rfl⟩
  obtain ⟨server, database, port, -, level, -⟩ := effective settings loaded
  exact ⟨settings, loaded, (Option.some.inj server).symm, (Option.some.inj database).symm,
    congrArg Subtype.val (Option.some.inj port).symm, (Option.some.inj level).symm⟩

/-- Names of fields in other letters are the fields', and names that direct how variables are read
are no fields. -/
theorem load_ok_of_foreign_names :
    let text := "source: \x7bServer_Name: pg1, database_name: inv, _env_prefix: PG_\x7d\n"
    let files : Files := [(".env", .directory), ("config.yaml", .file text.toUTF8)]
    let arguments : Inspection.Arguments := ⟨"o.yaml", ⟨some "config.yaml", none, none, none⟩⟩
    ∃ inner : Mapping, (fileAt Yaml.standard files arguments.choices.config).config =
        .ok (Document.entriesAlone [(.string "source", .map inner)]) ∧
      inner.map Prod.fst = [.string "Server_Name", .string "database_name", .string "_env_prefix"] ∧
      "Server_Name" ∉ sourceFields ∧ "_env_prefix" ∉ sourceFields ∧
      ∃ settings, (load (.standard [] files) arguments.choices.config
        (.map arguments.overrides)).settings = .ok settings ∧ settings.source.server = "pg1" := by
  intro text files arguments
  let inner := Mapping.ofFields [("Server_Name", .string "pg1"), ("database_name", .string "inv"),
    ("_env_prefix", .string "PG_")]
  have read : Yaml.standard.read text.toUTF8 =
      .ok (.alone (.map [(.string "source", .map inner)])) :=
    Document.eq_ok_alone_iff.mpr (by decide +kernel)
  have found : files.bytes "config.yaml" = .ok text.toUTF8 := rfl
  have held : (fileAt Yaml.standard files arguments.choices.config).config =
      .ok (Document.entriesAlone [(.string "source", .map inner)]) := config_readAt found read
  have loaded : (load (.standard [] files) arguments.choices.config
      (.map arguments.overrides)).settings = .ok ⟨⟨"pg1", "inv", by decide, by decide⟩,
        ⟨⟨9090, by decide, by decide⟩, false, .info, .json⟩⟩ := by
    rw [load, show (fileAt (Environment.standard [] files).documents
      (Environment.standard [] files).files arguments.choices.config).config = _ from held]
    decide +kernel
  exact ⟨inner, held, rfl, by decide, by decide, _, loaded, rfl⟩

end Config

end WalCheckpoint
