import WalCheckpoint.Proofs.Settings.Unforeseen
import WalCheckpoint.Proofs.Settings.Variables

namespace WalCheckpoint.Settings

/-! Sections that nothing directs: when they are read, and what is read from them. -/

def Undirected (given : Mapping) : Prop :=
  ∀ entry ∈ given, Directives.isName entry.1 = false

/-- A section that has only fields of the given names, in letters of either case. -/
def Known (fields : List String) (given : Mapping) : Prop :=
  ∀ entry ∈ given, ∃ name, entry.1 = .string name ∧ Text.lower name ∈ fields

variable {given : Mapping} {environment : Environment} {fields : List String}

@[simp] theorem throw_eq_error (failure : Failure) :
    (throw failure : Except Failure α) = .error failure :=
  rfl

@[simp] theorem pure_eq_ok (a : α) : (pure a : Except Failure α) = .ok a :=
  rfl

theorem Undirected.field?_eq_none (undirected : Undirected given) {name : String}
    (directs : name ∈ Directives.names) : given.field? name = none := by
  rw [Mapping.field?, Keyed.get?, List.find?_eq_none.mpr]
  · rfl
  · intro entry member same
    have free := undirected entry member
    rw [Value.sameKey_string_iff.mp same, Directives.isName, List.contains_iff_mem.mpr directs] at free
    contradiction

theorem Undirected.withGiven (undirected : Undirected given) (default : Directives) :
    default.withGiven given = default := by
  have absent {name : String} (directs : name ∈ Directives.names) :
      Directives.given? given name = none := by
    rw [Directives.given?, undirected.field?_eq_none directs]
    rfl
  rw [Directives.withGiven, Directives.switch, Directives.switch, absent (by decide), absent (by decide),
    absent (by decide), absent (by decide), absent (by decide), absent (by decide),
    undirected.field?_eq_none (by decide)]
  rfl

theorem follows_of_other {name : String} (other : name ∉ Directives.names) (value : Value) :
    Directives.follows name value = true := by
  have away {directive : String} (directs : directive ∈ Directives.names) : name ≠ directive := by
    rintro rfl
    exact other directs
  have free : Directives.otherNames.contains name = false := by
    rw [Bool.eq_false_iff]
    exact fun directs => other (List.mem_append_right _ (List.contains_iff_mem.mp directs))
  rw [Directives.follows, if_neg (away (by decide))]
  split
  · rfl
  · rw [if_neg (not_or.mpr ⟨away (by decide), away (by decide)⟩), if_neg (away (by decide)), free]
    rfl

theorem Undirected.areFollowed (undirected : Undirected given) :
    Directives.areFollowed given = true := by
  refine List.all_eq_true.mpr fun entry member => ?_
  have free := undirected entry member
  cases spelled : entry.1 with
  | string name =>
      rw [spelled, Directives.isName] at free
      exact follows_of_other (fun directs => by simp [directs] at free) entry.2
  | _ => rfl

theorem Undirected.without (undirected : Undirected given) : Directives.without given = given :=
  List.filter_eq_self.mpr fun entry member => by rw [undirected entry member]; rfl

theorem isUsable_of_letter {name : String} (begins : name.toList.head? ≠ some '_') :
    isUsable (.string name) = true := by
  refine bne_iff_ne.mpr ?_
  rintro rfl
  exact begins (by decide)

theorem lower_begins {name : String} (begins : name.toList.head? = some '_') :
    (Text.lower name).toList.head? = some '_' := by
  obtain ⟨rest, spelled⟩ := List.head?_eq_some_iff.mp begins
  have mark : Text.small '_' = '_' := by decide +kernel
  rw [Text.lower, spelled, String.toList_ofList, Text.lowerAfter, if_neg (by decide),
    if_neg fun sigma => absurd sigma.1 (by decide), mark]
  rfl

theorem Known.isUsable (known : Known fields given)
    (letters : ∀ field ∈ fields, field.toList.head? ≠ some '_') :
    (given.all fun entry => isUsable entry.1) = true := by
  refine List.all_eq_true.mpr fun entry member => ?_
  obtain ⟨name, spelled, among⟩ := known entry member
  rw [spelled]
  exact isUsable_of_letter fun begins => letters _ among (lower_begins begins)

theorem unknownFields_eq_nil_iff (usable : (given.all fun entry => isUsable entry.1) = true) :
    unknownFields fields given = [] ↔ Known fields given := by
  rw [unknownFields, List.filterMap_eq_nil_iff]
  refine forall₂_congr fun entry member => ?_
  obtain ⟨key, value⟩ := entry
  have usable := List.all_eq_true.mp usable _ member
  cases key with
  | string name =>
      dsimp only
      split
      · next among => simpa using among
      · next foreign => simpa using foreign
  | broken text => exact iff_of_false nofun (by rintro ⟨name, spelled, -⟩; contradiction)
  | _ => contradiction

theorem standIns_read {directives : Directives} (unfiled : directives.files = []) :
    StandIns.read environment directives = .ok ⟨directives, environment.own directives, []⟩ := by
  have filed : environment.filed directives = .ok [] := by
    rw [Environment.filed, unfiled]
    rfl
  rw [StandIns.read, filed]
  rfl

theorem directed_ok_iff (undirected : Undirected given) {own other : Except Failure α} {a : α} :
    directed given own other = .ok a ↔
      (given.all fun entry => isUsable entry.1) = true ∧ own = .ok a := by
  rw [directed, checkNames, undirected.areFollowed]
  cases given.all fun entry => isUsable entry.1 with
  | false =>
      constructor
      · intro failed
        cases failed
      · rintro ⟨unusable, -⟩
        cases unusable
  | true => exact (and_iff_right rfl).symm

/-- What counts for a setting that has the given value, or none. -/
def Field.chosen? (f : Field α) (value : Option Value) : Option α :=
  match value with
  | some value => (f.read value).toOption
  | none => f.default?

theorem Field.toOption_resolve (f : Field α) (lookup? : String → Option Value) :
    (f.resolve given lookup?).toOption = f.chosen? (f.source? given lookup?) := by
  rw [resolve, chosen?.eq_def]
  cases f.source? given lookup? with
  | none => cases f.default? <;> rfl
  | some value => cases read : f.read value <;> simp [read, Except.toOption]

def variableValue? (environment : Environment) (directives : Directives) (field : String) :
    Option Value :=
  (environment.own directives).value? (directives.variableName field)

theorem lookup?_of_unfiled (directives : Directives) :
    (StandIns.mk directives (environment.own directives) []).lookup? =
      variableValue? environment directives := by
  funext field
  rw [StandIns.lookup?, variableValue?]
  split
  · next found => exact found.symm
  · next none => exact none.symm

theorem unknownFields_of_unfiled (undirected : Undirected given) (directives : Directives)
    (own : Variables) :
    (StandIns.mk directives own []).unknownFields fields given = unknownFields fields given := by
  rw [StandIns.unknownFields, undirected.without]
  rfl

/-- A section is read where it has no unknown fields and what is left to read from it is there and
valid. -/
theorem directed_standIns_ok_iff (undirected : Undirected given) {default : Directives}
    (unfiled : default.files = [])
    (letters : ∀ field ∈ fields, field.toList.head? ≠ some '_')
    {next : StandIns → Except Failure α} {other : Except Failure α} {a : α} {counts : Prop}
    (rest : next ⟨default, environment.own default, []⟩ = .ok a ↔
      unknownFields fields given = [] ∧ counts) :
    directed given (StandIns.read environment (default.withGiven given) >>= next) other = .ok a ↔
      Known fields given ∧ counts := by
  rw [directed_ok_iff undirected, undirected.withGiven, standIns_read unfiled]
  constructor
  · rintro ⟨usable, reads⟩
    rw [← unknownFields_eq_nil_iff usable]
    exact rest.mp reads
  · intro reads
    have usable := reads.1.isUsable letters
    rw [← unknownFields_eq_nil_iff usable] at reads
    exact ⟨usable, rest.mpr reads⟩

theorem readSource_ok_iff (undirected : Undirected given) (source : Source) :
    readSource environment given = .ok source ↔
      Known sourceFields given ∧
      (serverField.chosen? (serverField.source? given
        (variableValue? environment sourceDirectives))).map Subtype.val = some source.server ∧
      (databaseField.chosen? (databaseField.source? given
        (variableValue? environment sourceDirectives))).map Subtype.val = some source.database := by
  refine directed_standIns_ok_iff undirected rfl (by decide) ?_
  simp only [sourceFrom, ← Field.toOption_resolve, lookup?_of_unfiled,
    unknownFields_of_unfiled undirected]
  obtain ⟨server, database, -, -⟩ := source
  cases serverField.resolve given (variableValue? environment sourceDirectives) <;>
    cases databaseField.resolve given (variableValue? environment sourceDirectives) <;>
    cases unknownFields sourceFields given <;>
    simp [Except.toOption]

theorem readObservability_ok_iff (undirected : Undirected given) (observability : Observability) :
    readObservability environment given = .ok observability ↔
      Known observabilityFields given ∧
      portField.chosen? (portField.source? given
        (variableValue? environment observabilityDirectives)) = some observability.metricsPort ∧
      enabledField.chosen? (enabledField.source? given
        (variableValue? environment observabilityDirectives)) = some observability.metricsEnabled ∧
      levelField.chosen? (levelField.source? given
        (variableValue? environment observabilityDirectives)) = some observability.logLevel ∧
      formatField.chosen? (formatField.source? given
        (variableValue? environment observabilityDirectives)) = some observability.logFormat := by
  refine directed_standIns_ok_iff undirected rfl (by decide) ?_
  simp only [observabilityFrom, ← Field.toOption_resolve, lookup?_of_unfiled,
    unknownFields_of_unfiled undirected]
  obtain ⟨port, enabled, level, format⟩ := observability
  cases portField.resolve given (variableValue? environment observabilityDirectives) <;>
    cases enabledField.resolve given (variableValue? environment observabilityDirectives) <;>
    cases levelField.resolve given (variableValue? environment observabilityDirectives) <;>
    cases formatField.resolve given (variableValue? environment observabilityDirectives) <;>
    cases unknownFields observabilityFields given <;>
    simp [Except.toOption]

/-- What a section is read from: nothing where it is not there, and nothing but a mapping. -/
def mappingOf? : Option Value → Option Mapping
  | none => some []
  | some (.map given) => some given
  | some _ => none

/-- An environment with no variables but those of single settings, and without a variable file. -/
structure Environment.Bare (environment : Environment) : Prop where
  single : SingleSettings environment.vars
  unfiled : environment.files.text variableFileName = .error .notFound ∨
    environment.files.text variableFileName = .error .directory

/-- A mapping whose names do not begin with an underscore. -/
def Lettered (given : Mapping) : Prop :=
  ∀ entry ∈ given, ∃ name, entry.1 = .string name ∧ name.toList.head? ≠ some '_'

theorem isName_of_letter {name : String} (letter : name.toList.head? ≠ some '_') :
    Directives.isName (.string name) = false := by
  have underscored : ∀ name ∈ Directives.names, name.toList.head? = some '_' := by decide
  rw [Directives.isName, Bool.eq_false_iff]
  exact fun directs => letter (underscored name (List.contains_iff_mem.mp directs))

theorem Lettered.undirected (lettered : Lettered given) : Undirected given := by
  intro entry member
  obtain ⟨name, spelled, letter⟩ := lettered entry member
  rw [spelled]
  exact isName_of_letter letter

theorem Lettered.directed (lettered : Lettered given) (own other : Except Failure α) :
    directed given own other = own := by
  refine directed_of_followed ⟨fun entry member => ?_, lettered.undirected.areFollowed⟩
  obtain ⟨name, spelled, letter⟩ := lettered entry member
  rw [spelled]
  exact isUsable_of_letter letter

theorem Environment.Bare.filed (bare : environment.Bare) :
    environment.filed outerDirectives = .ok [] := by
  have texts : environment.fileTexts [variableFileName] = .ok [] := by
    rw [fileTexts]
    rcases bare.unfiled with absent | directory
    · rw [absent]
      rfl
    · rw [directory]
      rfl
  rw [Environment.filed, show outerDirectives.files = [variableFileName] from rfl, texts]
  rfl

theorem overlayValue_none (value : Value) : Mapping.overlayValue none value = value := by
  cases value <;> rfl

theorem layered_none (upper : Option Value) : layered none upper = upper := by
  cases upper with
  | none => rfl
  | some value => exact congrArg some (overlayValue_none value)

/-- A section that is read: as an empty one where it is not there, and only where it is a mapping. -/
def ReadFrom (read : Mapping → Except Failure α) (value : Option Value) (a : α) : Prop :=
  ∃ given, mappingOf? value = some given ∧ read given = .ok a

theorem readFrom_none (read : Mapping → Except Failure α) (a : α) :
    ReadFrom read none a ↔ read [] = .ok a := by
  simp [ReadFrom, mappingOf?]

theorem readFrom_some (name : String) (read : Mapping → Except Failure α) (value : Value) (a : α) :
    ReadFrom read (some value) a ↔ readSection name read value = .ok a := by
  cases value with
  | map given =>
      rw [readSection]
      cases held : read given <;> simp [ReadFrom, mappingOf?, Except.mapError, held]
  | _ => simp [ReadFrom, readSection, mappingOf?]

theorem both_ok_iff {first : Except Failure α} {second : Except Failure β} {a : α} {b : β} :
    both first second = .ok (a, b) ↔ first = .ok a ∧ second = .ok b := by
  cases first with
  | ok a' => cases second <;> simp [both]
  | error failure => cases failure <;> cases second with
    | ok b' => simp [both]
    | error failure' => cases failure' <;> simp [both]

/-- Settings are read where both of their sections are. -/
theorem read_ok_iff (bare : environment.Bare) (lettered : Lettered given)
    (same : given? given sourceName = given.field? sourceName) (settings : Settings) :
    read environment given = .ok settings ↔
      ReadFrom (readSource environment) (given? given sourceName) settings.source ∧
      ReadFrom (readObservability environment) (given? given observabilityName)
        settings.observability := by
  obtain ⟨source, observability⟩ := settings
  have own : sectionsOf outerDirectives (environment.own outerDirectives) = .ok ⟨none, none⟩ :=
    (unsectioned_own bare.single ⟨rfl, rfl, rfl⟩).sectionsOf
  have filed : sectionsOf outerDirectives [] = .ok ⟨none, none⟩ := Unsectioned.sectionsOf nofun
  -- A source without a section is read before anything else, and a failure there is the only one.
  rw [read, sourceOfVariables, ← same]
  simp only [lettered.directed, gather, lettered.undirected.withGiven, bare.filed, bind, Except.bind, own,
    filed, layered_none, sourceIn, readWith, gathered, pure_eq_ok, throw_eq_error]
  cases given? given sourceName with
  | none =>
      rw [readFrom_none]
      cases readSource environment [] with
      | error failure => simp [Except.map]
      | ok source' =>
          cases given? given observabilityName with
          | none =>
              rw [readFrom_none]
              cases readObservability environment [] <;> simp [Except.map]
          | some value =>
              rw [readFrom_some observabilityName]
              simp only [Except.map]
              generalize readSection observabilityName (readObservability environment) value = read
              cases read <;> simp [both]
  | some value =>
      rw [readFrom_some sourceName]
      dsimp only [Option.getD_some]
      generalize readSection sourceName (readSource environment) value = source'
      cases given? given observabilityName with
      | none =>
          rw [readFrom_none]
          generalize readObservability environment [] = observability'
          rcases source' with failure | source'
          · cases failure <;> cases observability' <;> simp
          · cases observability' <;> simp
      | some value =>
          rw [readFrom_some observabilityName, ← both_ok_iff]
          cases read : both source' (readSection observabilityName (readObservability environment)
            value) <;> simp [read, Prod.ext_iff]

end WalCheckpoint.Settings
