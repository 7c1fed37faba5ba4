import WalCheckpoint.Proofs.Settings.Given
import WalCheckpoint.Proofs.Settings.Sections

namespace WalCheckpoint.Settings

/-! Which of several values counts for a setting: what is laid over the configuration, the
configuration, the variable of the setting, and its default, in this order. -/

/-- One setting, with the section it stands in and the variable it is looked for under. -/
structure Setting (α : Type) where
  field : Field α
  heading : String
  variableName : String

namespace Setting

def server : Setting Name := ⟨serverField, sourceName, "CDC_SOURCE_SERVER_NAME"⟩

def database : Setting Name := ⟨databaseField, sourceName, "CDC_SOURCE_DATABASE_NAME"⟩

def metricsPort : Setting Port := ⟨portField, observabilityName, "CDC_METRICS_PORT"⟩

def metricsEnabled : Setting Bool := ⟨enabledField, observabilityName, "CDC_ENABLE_METRICS"⟩

def logLevel : Setting Log.Level := ⟨levelField, observabilityName, "CDC_LOG_LEVEL"⟩

def logFormat : Setting Log.Format := ⟨formatField, observabilityName, "CDC_LOG_FORMAT"⟩

def value? (s : Setting α) (vars : List (String × String)) (config overrides : Mapping) :
    Option Value :=
  (within? overrides s.heading s.field.name).or
    ((within? config s.heading s.field.name).or ((vars.lookup s.variableName).map .string))

/-- The valid value that counts for a setting, if there is one. -/
def effective? (s : Setting α) (vars : List (String × String)) (config overrides : Mapping) :
    Option α :=
  s.field.chosen? (s.value? vars config overrides)

end Setting

def headings : List String := [sourceName, observabilityName]

theorem lower_headings : ∀ heading ∈ headings, Text.lower heading = heading := by decide +kernel

theorem lower_fields : ∀ field ∈ sourceFields ++ observabilityFields, Text.lower field = field := by
  decide +kernel

theorem Lettered.overlay {lower : Mapping} {fields : List (String × Value)}
    (lettered : Lettered lower)
    (letter : ∀ field ∈ fields, field.1.toList.head? ≠ some '_') :
    Lettered (lower.overlay (Mapping.ofFields fields)) :=
  Mapping.forall_key_overlay
    (P := fun key => ∃ name, key = .string name ∧ name.toList.head? ≠ some '_') lettered
    fun field member => ⟨_, rfl, letter field member⟩

theorem Undirected.overlay {lower : Mapping} {fields : List (String × Value)}
    (undirected : Undirected lower)
    (letter : ∀ field ∈ fields, field.1.toList.head? ≠ some '_') :
    Undirected (lower.overlay (Mapping.ofFields fields)) :=
  Mapping.forall_key_overlay (P := fun key => Directives.isName key = false) undirected
    fun field member => isName_of_letter (letter field member)

theorem lettered_ofFields {fields : List (String × Value)}
    (letter : ∀ field ∈ fields, field.1.toList.head? ≠ some '_') :
    Lettered (Mapping.ofFields fields) := by
  intro entry member
  obtain ⟨field, held, rfl⟩ := List.mem_map.mp member
  exact ⟨_, rfl, letter field held⟩

theorem undirected_overlay_section {m : Mapping} {sections : List (String × Value)}
    (texts : TextSections sections) {heading : String} (spelled : Text.lower heading = heading)
    (verbatim : (given? (Mapping.ofFields sections) heading).isSome → Verbatim m heading)
    (undirected : ∀ inner, given? m heading = some (.map inner) → Undirected inner)
    {inner : Mapping}
    (merged : given? (m.overlay (Mapping.ofFields sections)) heading = some (.map inner)) :
    Undirected inner := by
  rw [given?_ofFields texts.small spelled] at verbatim
  rw [given?_overlay texts.distinct texts.small spelled verbatim] at merged
  cases laid : sections.lookup heading with
  | none =>
      rw [laid] at merged
      exact undirected inner merged
  | some value =>
      obtain ⟨fields, rfl, texts⟩ := texts.held _ (mem_of_lookup laid)
      rw [laid] at merged
      have alone : Undirected (Mapping.ofFields fields) := (lettered_ofFields texts.letter).undirected
      cases held : given? m heading with
      | none =>
          rw [held] at merged
          obtain rfl := Value.map.inj (Option.some.inj merged)
          exact alone
      | some value =>
          rw [held] at merged
          cases value with
          | map lower =>
              obtain rfl := Value.map.inj (Option.some.inj merged)
              exact (undirected lower held).overlay texts.letter
          | _ =>
              obtain rfl := Value.map.inj (Option.some.inj merged)
              exact alone

/-- A section that is a mapping with known fields, or is not there. -/
def WellFormed (given : Mapping) (heading : String) (fields : List String) : Prop :=
  ∀ value, given? given heading = some value → ∃ inner, value = .map inner ∧ Known fields inner

/-- Configurations in which no name directs how settings are read, and in which the names that
something is laid over are there as they are spelled. So is the name of the source. -/
structure Regular (config overrides : Mapping) : Prop where
  lettered : Lettered config
  undirected : ∀ heading ∈ headings, ∀ inner, given? config heading = some (.map inner) →
    Undirected inner
  source : Verbatim config sourceName
  headings : ∀ heading, (given? overrides heading).isSome → Verbatim config heading
  fields : ∀ heading name, (within? overrides heading name).isSome →
    ∀ inner, given? config heading = some (.map inner) → Verbatim inner name

theorem mem_of_given? {given : Mapping} {name : String} {value : Value}
    (found : given? given name = some value) : ∃ entry ∈ given, entry.2 = value := by
  obtain ⟨entry, found, same⟩ := Option.map_eq_some_iff.mp found
  exact ⟨entry, List.mem_of_find?_eq_some found, same⟩

theorem Regular.of_spelled {sections : List (String × Value)} {holds holds' : Value → Prop}
    (spelled : Spelled holds sections)
    (parts : ∀ part ∈ sections, ∀ inner, part.2 = .map inner →
      ∃ fields, inner = Mapping.ofFields fields ∧ Spelled holds' fields) (overrides : Mapping) :
    Regular (Mapping.ofFields sections) overrides := by
  have part {heading : String} {inner : Mapping}
      (found : given? (Mapping.ofFields sections) heading = some (.map inner)) :
      ∃ fields, inner = Mapping.ofFields fields ∧ Spelled holds' fields := by
    obtain ⟨entry, member, same⟩ := mem_of_given? found
    obtain ⟨part, among, rfl⟩ := List.mem_map.mp member
    exact parts part among inner same
  refine ⟨lettered_ofFields spelled.letter, fun heading _ inner found => ?_,
    verbatim_ofFields spelled.small _, fun heading _ => verbatim_ofFields spelled.small _,
    fun heading name _ inner found => ?_⟩
  · obtain ⟨fields, rfl, spelled⟩ := part found
    exact (lettered_ofFields spelled.letter).undirected
  · obtain ⟨fields, rfl, spelled⟩ := part found
    exact verbatim_ofFields spelled.small name

theorem given?_of_mappingOf? {given inner : Mapping} {heading : String}
    (found : mappingOf? (given? given heading) = some inner) (name : String) :
    given? inner name = within? given heading name := by
  rw [within?]
  cases held : given? given heading with
  | none =>
      rw [held] at found
      obtain rfl := Option.some.inj found
      rfl
  | some value =>
      rw [held] at found
      cases value with
      | map given =>
          obtain rfl := Option.some.inj found
          rfl
      | _ => contradiction

theorem wellFormed_iff {given : Mapping} {heading : String} {fields : List String} :
    WellFormed given heading fields ↔
      ∃ inner, mappingOf? (given? given heading) = some inner ∧ Known fields inner := by
  rw [WellFormed]
  cases given? given heading with
  | none => simp [mappingOf?, Known]
  | some value => cases value <;> simp [mappingOf?]

/-- The variable of a setting is the one that its name leads to. -/
structure Setting.Named (s : Setting α) (directives : Directives) : Prop where
  heading : s.heading ∈ headings
  field : s.field.name ∈ sourceFields ++ observabilityFields
  known : s.variableName ∈ variableNames
  folded : directives.variableName s.field.name = Text.lower s.variableName

section Merged

variable {environment : Environment} {config : Mapping} {sections : List (String × Value)}
  {heading : String}

/-- What counts for a setting of a merged section is what counts for it by precedence. -/
theorem Setting.source?_eq (single : SingleSettings environment.vars) (s : Setting α)
    {directives : Directives} (literal : directives.Literal) (named : s.Named directives) (texts : TextSections sections)
    (regular : Regular config (Mapping.ofFields sections)) {inner : Mapping}
    (found : mappingOf? (given? (config.overlay (Mapping.ofFields sections)) s.heading) =
      some inner) :
    s.field.source? inner (variableValue? environment directives) =
      s.value? environment.vars config (Mapping.ofFields sections) := by
  have own : variableValue? environment directives s.field.name =
      (environment.vars.lookup s.variableName).map .string := by
    rw [variableValue?, named.folded, own_value? single literal named.known]
  have merged := within?_overlay texts (lower_headings _ named.heading) (lower_fields _ named.field)
    (regular.headings s.heading) (regular.fields s.heading s.field.name)
  rw [Setting.value?, ← Option.or_assoc, ← merged, ← given?_of_mappingOf? found, ← own,
    Field.source?]
  cases given? inner s.field.name <;> rfl

theorem undirected_of_mappingOf? (texts : TextSections sections)
    (known : heading ∈ headings)
    (regular : Regular config (Mapping.ofFields sections)) {inner : Mapping}
    (found : mappingOf? (given? (config.overlay (Mapping.ofFields sections)) heading) =
      some inner) : Undirected inner := by
  cases merged : given? (config.overlay (Mapping.ofFields sections)) heading with
  | none =>
      rw [merged] at found
      obtain rfl := Option.some.inj found
      exact nofun
  | some value =>
      rw [merged] at found
      cases value with
      | map given =>
          obtain rfl := Option.some.inj found
          exact undirected_overlay_section texts (lower_headings _ known) (regular.headings heading)
            (regular.undirected heading known) merged
      | _ => contradiction

theorem readFrom_iff {read : Mapping → Except Failure α} {given : Mapping} {fields : List String}
    {a : α} {counts : Prop}
    (part : ∀ inner, mappingOf? (given? given heading) = some inner →
      (read inner = .ok a ↔ Known fields inner ∧ counts)) :
    ReadFrom read (given? given heading) a ↔ WellFormed given heading fields ∧ counts := by
  rw [wellFormed_iff]
  constructor
  · rintro ⟨inner, found, read⟩
    obtain ⟨known, counts⟩ := (part inner found).mp read
    exact ⟨⟨inner, found, known⟩, counts⟩
  · rintro ⟨⟨inner, found, known⟩, counts⟩
    exact ⟨inner, found, (part inner found).mpr ⟨known, counts⟩⟩

theorem readFrom_source_iff (single : SingleSettings environment.vars)
    (texts : TextSections sections) (regular : Regular config (Mapping.ofFields sections)) (source : Source) :
    ReadFrom (readSource environment)
        (given? (config.overlay (Mapping.ofFields sections)) sourceName) source ↔
      WellFormed (config.overlay (Mapping.ofFields sections)) sourceName sourceFields ∧
      (Setting.server.effective? environment.vars config (Mapping.ofFields sections)).map
        Subtype.val = some source.server ∧
      (Setting.database.effective? environment.vars config (Mapping.ofFields sections)).map
        Subtype.val = some source.database := by
  refine readFrom_iff fun inner found => ?_
  have server : serverField.source? inner (variableValue? environment sourceDirectives) =
      Setting.server.value? environment.vars config (Mapping.ofFields sections) :=
    Setting.server.source?_eq single ⟨rfl, rfl, rfl⟩
      ⟨by decide, by decide, by decide, by decide +kernel⟩ texts regular found
  have database : databaseField.source? inner (variableValue? environment sourceDirectives) =
      Setting.database.value? environment.vars config (Mapping.ofFields sections) :=
    Setting.database.source?_eq single ⟨rfl, rfl, rfl⟩
      ⟨by decide, by decide, by decide, by decide +kernel⟩ texts regular found
  rw [readSource_ok_iff (undirected_of_mappingOf? texts (by decide) regular found), server, database]
  rfl

theorem readFrom_observability_iff (single : SingleSettings environment.vars)
    (texts : TextSections sections) (regular : Regular config (Mapping.ofFields sections)) (observability : Observability) :
    ReadFrom (readObservability environment)
        (given? (config.overlay (Mapping.ofFields sections)) observabilityName) observability ↔
      WellFormed (config.overlay (Mapping.ofFields sections)) observabilityName
        observabilityFields ∧
      Setting.metricsPort.effective? environment.vars config (Mapping.ofFields sections) =
        some observability.metricsPort ∧
      Setting.metricsEnabled.effective? environment.vars config (Mapping.ofFields sections) =
        some observability.metricsEnabled ∧
      Setting.logLevel.effective? environment.vars config (Mapping.ofFields sections) =
        some observability.logLevel ∧
      Setting.logFormat.effective? environment.vars config (Mapping.ofFields sections) =
        some observability.logFormat := by
  refine readFrom_iff fun inner found => ?_
  have port : portField.source? inner (variableValue? environment observabilityDirectives) =
      Setting.metricsPort.value? environment.vars config (Mapping.ofFields sections) :=
    Setting.metricsPort.source?_eq single ⟨rfl, rfl, rfl⟩
      ⟨by decide, by decide, by decide, by decide +kernel⟩ texts regular found
  have enabled : enabledField.source? inner (variableValue? environment observabilityDirectives) =
      Setting.metricsEnabled.value? environment.vars config (Mapping.ofFields sections) :=
    Setting.metricsEnabled.source?_eq single ⟨rfl, rfl, rfl⟩
      ⟨by decide, by decide, by decide, by decide +kernel⟩ texts regular found
  have level : levelField.source? inner (variableValue? environment observabilityDirectives) =
      Setting.logLevel.value? environment.vars config (Mapping.ofFields sections) :=
    Setting.logLevel.source?_eq single ⟨rfl, rfl, rfl⟩
      ⟨by decide, by decide, by decide, by decide +kernel⟩ texts regular found
  have format : formatField.source? inner (variableValue? environment observabilityDirectives) =
      Setting.logFormat.value? environment.vars config (Mapping.ofFields sections) :=
    Setting.logFormat.source?_eq single ⟨rfl, rfl, rfl⟩
      ⟨by decide, by decide, by decide, by decide +kernel⟩ texts regular found
  rw [readObservability_ok_iff (undirected_of_mappingOf? texts (by decide) regular found), port, enabled,
    level, format]
  rfl

end Merged

end WalCheckpoint.Settings
