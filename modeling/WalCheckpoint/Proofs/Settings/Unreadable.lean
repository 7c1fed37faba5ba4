import WalCheckpoint.Proofs.Settings.Unforeseen

namespace WalCheckpoint.Settings

variable {environment : Environment} {default directives : Directives} {given : Mapping}

/-! The sections of settings, and settings as a whole. -/

/-- A reading that fails for issues only, unless it breaks. -/
def Reports (read : Except Failure α) : Prop :=
  ∀ failure, read = .error failure → failure.isForeseen = true → ∃ issues, failure = .invalid issues

theorem reports_ok (a : α) : Reports (.ok a : Except Failure α) :=
  nofun

theorem reports_invalid (issues : List Issue) :
    Reports (.error (.invalid issues) : Except Failure α) := by
  rintro failure failed -
  exact ⟨issues, (Except.error.inj failed).symm⟩

theorem isForeseen_within (name : String) (failure : Failure) :
    (failure.within name).isForeseen = failure.isForeseen := by
  cases failure <;> rfl

/-- A section fails for issues only, unless it breaks: what keeps its variables from being read is
one of its issues. -/
theorem reports_readSection (name : String) (read : Mapping → Except Failure α) (value : Value) :
    Reports (readSection name read value) := by
  have within {failure : Failure} (foreseen : (failure.within name).isForeseen = true) :
      ∃ issues, failure.within name = .invalid issues := by
    cases failure <;> first | contradiction | exact ⟨_, rfl⟩
  rw [readSection.eq_def]
  split
  · next given =>
      cases read given with
      | ok a => exact reports_ok a
      | error failure =>
          intro failure' failed foreseen
          obtain rfl := Except.error.inj failed
          exact within foreseen
  · exact reports_invalid _

theorem breaks_both_iff {first : Except Failure α} {second : Except Failure β}
    (reports : Reports first) : Breaks (both first second) ↔ Breaks first ∨ Breaks second := by
  cases first with
  | ok a =>
      rw [or_iff_right (not_breaks_ok a)]
      cases second with
      | ok b => exact iff_of_false (not_breaks_ok _) (not_breaks_ok _)
      | error failure => exact breaks_error_iff.trans breaks_error_iff.symm
  | error failure =>
      cases foreseen : failure.isForeseen with
      | true =>
          obtain ⟨issues, rfl⟩ := reports failure rfl foreseen
          rw [or_iff_right (not_breaks_invalid issues)]
          cases second with
          | ok b => exact iff_of_false (not_breaks_invalid issues) (not_breaks_ok b)
          | error failure' =>
              refine Iff.trans ?_ breaks_error_iff.symm
              cases failure' <;> exact breaks_error_iff
      | false =>
          have same : both (.error failure : Except Failure α) second = .error failure := by
            cases failure <;> first | contradiction | rfl
          rw [same]
          exact iff_of_true (breaks_error_iff.mpr foreseen) (.inl (breaks_error_iff.mpr foreseen))

theorem breaks_readSection_iff {name : String} {read : Mapping → Except Failure α} {value : Value} :
    Breaks (readSection name read value) ↔ ∃ inner, value = .map inner ∧ Breaks (read inner) := by
  rw [readSection.eq_def]
  split
  · next inner =>
      have within : Breaks ((read inner).mapError (Failure.within name)) ↔ Breaks (read inner) := by
        cases read inner with
        | ok a => exact iff_of_false (not_breaks_ok a) (not_breaks_ok a)
        | error failure =>
            refine breaks_error_iff.trans (Iff.trans ?_ breaks_error_iff.symm)
            rw [isForeseen_within]
      rw [within]
      refine ⟨fun breaks => ⟨inner, rfl, breaks⟩, ?_⟩
      rintro ⟨inner', same, breaks⟩
      exact Value.map.inj same ▸ breaks
  · next other =>
      refine iff_of_false (not_breaks_invalid _) ?_
      rintro ⟨inner, rfl, -⟩
      exact other inner rfl

/-- Where nothing is given for the source, its names are taken from the variables first. -/
def Sourced (environment : Environment) (given : Mapping) : Prop :=
  given.field? sourceName = none → ∃ source, readSource environment [] = .ok source

/-- What keeps settings from being read at all: something among all of them, or within one section. -/
inductive Unreadable (environment : Environment) (given : Mapping) : Prop
  | whole {source? : Option Source} (taken : sourceOfVariables environment given = .ok source?)
      (unforeseen : Unforeseen environment.files outerDirectives given
        (environment.library.settings source? given))
  | source {sections : Sections} {inner : Mapping} (named : given.hasField sourceName = true)
      (followed : Followed given) (gathers : gather environment given = .ok sections)
      (held : sections.source = some (.map inner))
      (unforeseen : Unforeseen environment.files sourceDirectives inner
        (environment.library.source inner))
  | observability {sections : Sections} {inner : Mapping} (sourced : Sourced environment given)
      (followed : Followed given) (gathers : gather environment given = .ok sections)
      (held : sections.observability = some (.map inner))
      (unforeseen : Unforeseen environment.files observabilityDirectives inner
        (environment.library.observability inner))

theorem not_breaks_readSource_nil : ¬ Breaks (readSource environment []) := by
  rw [breaks_readSource_iff]
  exact not_unforeseen_nil rfl

theorem not_breaks_readObservability_nil : ¬ Breaks (readObservability environment []) := by
  rw [breaks_readObservability_iff]
  exact not_unforeseen_nil rfl

theorem not_breaks_sectionsOf (vars : Variables) : ¬ Breaks (sectionsOf directives vars) := by
  have unreadable (read : Except Variables.Error (Option Value)) :
      ¬ Breaks (read.mapError Failure.unreadableVariable) := by
    cases read with
    | ok value => exact not_breaks_ok value
    | error error => exact fun breaks => absurd (breaks_error_iff.mp breaks) Bool.noConfusion
  rw [sectionsOf, breaks_bind_iff]
  rintro (breaks | ⟨source, -, breaks⟩)
  · exact unreadable _ breaks
  · rcases breaks_bind_iff.mp breaks with breaks | ⟨observability, -, breaks⟩
    · exact unreadable _ breaks
    · exact not_breaks_ok _ breaks

theorem not_breaks_sourceOfVariables : ¬ Breaks (sourceOfVariables environment given) := by
  rw [sourceOfVariables]
  split
  · have whole : ¬ Breaks (readSource environment []) := not_breaks_readSource_nil
    generalize readSource environment [] = source at whole ⊢
    cases source with
    | ok source => exact not_breaks_ok _
    | error failure =>
        rw [breaks_error_iff] at whole
        rwa [Except.map, breaks_error_iff]
  · exact not_breaks_ok none

theorem sourceOfVariables_eq_ok_iff {source? : Option Source} :
    sourceOfVariables environment given = .ok source? ↔
      (given.field? sourceName ≠ none ∧ source? = none) ∨
      (given.field? sourceName = none ∧
        ∃ source, readSource environment [] = .ok source ∧ source? = some source) := by
  rw [sourceOfVariables]
  split
  · next absent =>
      cases readSource environment [] with
      | ok source => simp [Except.map, absent, eq_comm]
      | error failure => simp [Except.map, absent]
  · next named => simp [named, eq_comm]

theorem breaks_gathered_iff {source : Except Failure Source} (reports : Reports source)
    (sections : Sections) :
    Breaks (gathered environment source sections) ↔
      Breaks source ∨ ∃ inner, sections.observability = some (.map inner) ∧
        Unforeseen environment.files observabilityDirectives inner
          (environment.library.observability inner) := by
  unfold gathered
  cases sections.observability with
  | some value =>
      refine (breaks_bind_of_not_breaks fun sections => not_breaks_ok _).trans ?_
      rw [breaks_both_iff reports, breaks_readSection_iff]
      simp only [breaks_readObservability_iff, Option.some.injEq]
  | none =>
      dsimp only
      have whole : ¬ Breaks (readObservability environment []) := not_breaks_readObservability_nil
      generalize readObservability environment [] = observability at whole ⊢
      rw [or_iff_left (by nofun)]
      cases source with
      | ok source =>
          cases observability with
          | ok observability => exact iff_of_false (not_breaks_ok _) (not_breaks_ok source)
          | error failure =>
              rw [breaks_error_iff] at whole
              exact iff_of_false (mt breaks_error_iff.mp whole) (not_breaks_ok source)
      | error failure =>
          cases foreseen : failure.isForeseen with
          | true =>
              obtain ⟨issues, rfl⟩ := reports failure rfl foreseen
              refine iff_of_false ?_ (not_breaks_invalid issues)
              cases observability with
              | ok observability => exact not_breaks_invalid issues
              | error failure =>
                  rw [breaks_error_iff] at whole
                  exact mt breaks_error_iff.mp whole
          | false =>
              refine iff_of_true ?_ (breaks_error_iff.mpr foreseen)
              cases failure <;> first | contradiction | exact breaks_error_iff.mpr foreseen

theorem getD_null_eq_map_iff {value? : Option Value} {inner : Mapping} :
    value?.getD .null = .map inner ↔ value? = some (.map inner) := by
  cases value? <;> simp

theorem breaks_sourceIn_iff {source? : Option Source} {sections : Sections}
    (taken : sourceOfVariables environment given = .ok source?) :
    Breaks (sourceIn environment source? sections) ↔
      given.hasField sourceName = true ∧ ∃ inner, sections.source = some (.map inner) ∧
        Unforeseen environment.files sourceDirectives inner (environment.library.source inner) := by
  rw [Mapping.hasField, Option.isSome_iff_ne_none]
  obtain ⟨named, rfl⟩ | ⟨absent, source, -, rfl⟩ := sourceOfVariables_eq_ok_iff.mp taken
  · rw [and_iff_right named, sourceIn, breaks_readSection_iff]
    simp only [breaks_readSource_iff, getD_null_eq_map_iff]
  · exact iff_of_false (not_breaks_ok source) fun ⟨named, _⟩ => named absent

theorem reports_sourceIn (source? : Option Source) (sections : Sections) :
    Reports (sourceIn environment source? sections) := by
  cases source? with
  | some source => exact reports_ok source
  | none => exact reports_readSection sourceName _ _

theorem sourced_iff :
    Sourced environment given ↔ ∃ source?, sourceOfVariables environment given = .ok source? := by
  simp only [sourceOfVariables_eq_ok_iff]
  constructor
  · intro sourced
    cases named : given.field? sourceName with
    | none =>
        obtain ⟨source, held⟩ := sourced named
        exact ⟨some source, .inr ⟨rfl, source, held, rfl⟩⟩
    | some value => exact ⟨none, .inl ⟨Option.some_ne_none value, rfl⟩⟩
  · rintro ⟨source?, ⟨named, -⟩ | ⟨-, source, held, -⟩⟩ absent
    · exact absurd absent named
    · exact ⟨source, held⟩

theorem sourced_of_hasField (named : given.hasField sourceName = true) :
    Sourced environment given :=
  fun absent => absurd absent (Option.isSome_iff_ne_none.mp named)

theorem breaks_gather_iff :
    Breaks (gather environment given) ↔
      Unreachable environment.files (outerDirectives.withGiven given).files := by
  rw [gather, ← breaks_filed_iff]
  refine breaks_bind_of_not_breaks fun filed breaks => ?_
  rcases breaks_bind_iff.mp breaks with breaks | ⟨upper, -, breaks⟩
  · exact not_breaks_sectionsOf _ breaks
  · rcases breaks_bind_iff.mp breaks with breaks | ⟨lower, -, breaks⟩
    · exact not_breaks_sectionsOf _ breaks
    · exact not_breaks_ok _ breaks

theorem breaks_directed_gather_iff (next : Sections → Except Failure Settings)
    (other : Except Failure Settings) :
    Breaks (directed given (gather environment given >>= next) other) ↔
      Unforeseen environment.files outerDirectives given other ∨
        Followed given ∧ ∃ sections, gather environment given = .ok sections ∧
          Breaks (next sections) :=
  breaks_directed_iff (breaks_bind_iff.trans (or_congr_left breaks_gather_iff))

/-- Settings are read, or their issues and the variables that cannot be read are reported, unless
something keeps them from being read at all. -/
theorem breaks_read_iff : Breaks (read environment given) ↔ Unreadable environment given := by
  rw [read, breaks_bind_iff, or_iff_right not_breaks_sourceOfVariables]
  have directed (source? : Option Source) :=
    @breaks_directed_gather_iff environment given
      (fun sections => gathered environment (sourceIn environment source? sections) sections)
      (environment.library.settings source? given)
  constructor
  · rintro ⟨source?, taken, breaks⟩
    obtain unforeseen | ⟨followed, sections, gathers, breaks⟩ := (directed source?).mp breaks
    · exact .whole taken unforeseen
    · rw [breaks_gathered_iff (reports_sourceIn _ _), breaks_sourceIn_iff taken] at breaks
      obtain ⟨named, inner, held, unforeseen⟩ | ⟨inner, held, unforeseen⟩ := breaks
      · exact .source named followed gathers held unforeseen
      · exact .observability (sourced_iff.mpr ⟨_, taken⟩) followed gathers held unforeseen
  · intro unreadable
    cases unreadable with
    | @whole source? taken unforeseen =>
        exact ⟨source?, taken, (directed source?).mpr (.inl unforeseen)⟩
    | source named followed gathers held unforeseen =>
        obtain ⟨source?, taken⟩ := sourced_iff.mp (sourced_of_hasField named)
        refine ⟨source?, taken, (directed source?).mpr (.inr ⟨followed, _, gathers, ?_⟩)⟩
        refine (breaks_gathered_iff (reports_sourceIn _ _) _).mpr (.inl ?_)
        exact (breaks_sourceIn_iff taken).mpr ⟨named, _, held, unforeseen⟩
    | observability sourced followed gathers held unforeseen =>
        obtain ⟨source?, taken⟩ := sourced_iff.mp sourced
        refine ⟨source?, taken, (directed source?).mpr (.inr ⟨followed, _, gathers, ?_⟩)⟩
        exact (breaks_gathered_iff (reports_sourceIn _ _) _).mpr (.inr ⟨_, held, unforeseen⟩)

end WalCheckpoint.Settings
