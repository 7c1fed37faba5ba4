import WalCheckpoint.Config.Load
import WalCheckpoint.Proofs.Settings.Unreadable

namespace WalCheckpoint.Config

/-! How loading fails. Besides the failures that are foreseen there are those of a path that leads
to no file, of a document with a value that cannot be, and of settings that cannot be read at
all. -/

/-- Failures that loading is said to have: no file, a file that holds no mapping, and settings that
are not valid. -/
inductive Documented : Failure → Prop
  | notFound {path : String} : Documented (.file (.notFound path))
  | malformed {fault : Yaml.Fault} (foreseen : fault.isForeseen = true) :
      Documented (.file (.malformed fault))
  | notMapping {path : String} : Documented (.file (.notMapping path))
  | settings {failure : Settings.Failure} (foreseen : failure.isForeseen = true) :
      Documented (.settings failure)

/-- What makes reading a configuration file fail in another way: a path that leads to no file of its
own, or a fault of the document that is not foreseen. -/
inductive FileUnforeseen (documents : Yaml.Reader) (files : Files) : Option String → Prop
  | place {named : String} (nonempty : named ≠ "")
      (unopened : files.bytes named = .error .directory ∨ files.bytes named = .error .nameTooLong) :
      FileUnforeseen documents files (some named)
  | document {named : String} {bytes : ByteArray} {fault : Yaml.Fault} (nonempty : named ≠ "")
      (held : files.bytes named = .ok bytes) (failed : documents.read bytes = .error fault)
      (unforeseen : fault.isForeseen = false) :
      FileUnforeseen documents files (some named)

/-- What makes loading fail in another way. -/
inductive Unforeseen (environment : Environment) (path : Option String) (overrides : Mapping) : Prop
  | file (unforeseen : FileUnforeseen environment.documents environment.files path)
  | settings {config : Keyed Document}
      (held : (fileAt environment.documents environment.files path).config = .ok config)
      (unreadable : Settings.Unreadable environment.reading (laidOver config overrides))

variable {environment : Environment} {documents : Yaml.Reader} {files : Files}
  {path : Option String} {overrides : Mapping}

theorem documented_settings_iff {failure : Settings.Failure} :
    Documented (.settings failure) ↔ failure.isForeseen = true := by
  constructor
  · rintro ⟨⟩
    assumption
  · exact .settings

theorem documented_malformed_iff {fault : Yaml.Fault} :
    Documented (.file (.malformed fault)) ↔ fault.isForeseen = true := by
  constructor
  · rintro ⟨⟩
    assumption
  · exact .malformed

/-- A failure that loading is not said to have. -/
def Undocumented (loaded : Except Failure α) : Prop :=
  ∃ failure, loaded = .error failure ∧ ¬ Documented failure

theorem not_undocumented_ok (a : α) : ¬ Undocumented (.ok a) :=
  nofun

theorem undocumented_error_iff {failure : Failure} :
    Undocumented (.error failure : Except Failure α) ↔ ¬ Documented failure := by
  constructor
  · rintro ⟨failure', same, undocumented⟩
    exact Except.error.inj same ▸ undocumented
  · exact fun undocumented => ⟨failure, rfl, undocumented⟩

theorem undocumented_settings_iff (read : Except Settings.Failure Settings) :
    Undocumented (read.mapError .settings) ↔ Settings.Breaks read := by
  cases read with
  | ok settings => exact iff_of_false (not_undocumented_ok settings) (Settings.not_breaks_ok settings)
  | error failure =>
      refine undocumented_error_iff.trans ?_
      rw [documented_settings_iff, Settings.breaks_error_iff, Bool.not_eq_true]

theorem not_undocumented_ofDocument (path : String) (document : Document) :
    ¬ Undocumented ((ofDocument path document).config.mapError .file) := by
  rw [ofDocument]
  split
  · exact not_undocumented_ok _
  · split
    · exact not_undocumented_ok _
    · exact fun undocumented => undocumented_error_iff.mp undocumented .notMapping

theorem undocumented_readAt_iff (named : String) :
    Undocumented ((readAt documents files named).config.mapError .file) ↔
      files.bytes named = .error .directory ∨ files.bytes named = .error .nameTooLong ∨
        ∃ bytes fault, files.bytes named = .ok bytes ∧ documents.read bytes = .error fault ∧
          fault.isForeseen = false := by
  rw [readAt]
  cases files.bytes named with
  | error error =>
      cases error with
      | notFound =>
          exact undocumented_error_iff.trans (iff_of_false (not_not_intro .notFound) (by simp))
      | directory | nameTooLong =>
          exact undocumented_error_iff.trans (iff_of_true nofun (by simp))
  | ok bytes =>
      dsimp only
      cases read : documents.read bytes with
      | ok document => exact iff_of_false (not_undocumented_ofDocument named document) (by simp [read])
      | error fault =>
          refine undocumented_error_iff.trans ?_
          rw [documented_malformed_iff, Bool.not_eq_true]
          simp [read]

theorem undocumented_fileAt_iff :
    Undocumented ((fileAt documents files path).config.mapError .file) ↔
      FileUnforeseen documents files path := by
  rw [fileAt.eq_def]
  split
  · exact iff_of_false (not_undocumented_ok _) nofun
  · refine iff_of_false (not_undocumented_ok _) ?_
    rintro (⟨nonempty, -⟩ | ⟨nonempty, -⟩) <;> exact nonempty rfl
  · next named nonempty =>
      rw [undocumented_readAt_iff]
      constructor
      · rintro (directory | long | ⟨bytes, fault, held, failed, unforeseen⟩)
        · exact .place nonempty (.inl directory)
        · exact .place nonempty (.inr long)
        · exact .document nonempty held failed unforeseen
      · rintro (⟨-, directory | long⟩ | ⟨-, held, failed, unforeseen⟩)
        · exact .inl directory
        · exact .inr (.inl long)
        · exact .inr (.inr ⟨_, _, held, failed, unforeseen⟩)

theorem settings_loadGiven (reading : Settings.Environment) (events : List Log.Event)
    (fromFile : Bool) (given : Mapping) :
    (loadGiven reading events fromFile given).settings =
      (Settings.read reading given).mapError .settings := by
  rw [loadGiven]
  cases Settings.read reading given <;> rfl

/-- Loading fails in a way that it is not said to for these reasons only. -/
theorem undocumented_load_iff :
    Undocumented (load environment path (.map overrides)).settings ↔
      Unforeseen environment path overrides := by
  have file : Undocumented ((fileAt environment.documents environment.files path).config.mapError
      .file) ↔ FileUnforeseen environment.documents environment.files path :=
    undocumented_fileAt_iff
  rw [load]
  cases held : (fileAt environment.documents environment.files path).config with
  | error failure =>
      rw [held] at file
      refine (undocumented_error_iff.trans undocumented_error_iff.symm).trans (file.trans ⟨.file, ?_⟩)
      rintro (unforeseen | ⟨held', -⟩)
      · exact unforeseen
      · rw [held] at held'
        contradiction
  | ok config =>
      rw [held] at file
      dsimp only
      rw [overridden?]
      dsimp only
      rw [settings_loadGiven, undocumented_settings_iff, Settings.breaks_read_iff]
      refine ⟨.settings held, ?_⟩
      rintro (unforeseen | ⟨held', unreadable⟩)
      · exact absurd (file.mpr unforeseen) (not_undocumented_ok config)
      · rw [held] at held'
        exact Except.ok.inj held' ▸ unreadable

end WalCheckpoint.Config
