import WalCheckpoint.Inspection.Standard
import WalCheckpoint.Proofs.Config.Failure
import WalCheckpoint.Proofs.Inspection.Ending

namespace WalCheckpoint.Inspection

/-! How a run ends that is not configured. -/

open Config (Documented)

/-- How a run exits that has no settings. -/
def refusalExit : Config.Failure → Exit
  | .file (.notFound _) => .unreadable
  | _ => .invalid

theorem plain_because (name : String) (message : Option String) (exit : Exit) :
    Log.Plain (Refused.because name [] message exit).event.fields := by
  cases message with
  | none => exact .nil
  | some message => exact .text (by decide) _ .nil

theorem ofConfig_of_documented {failure : Config.Failure} (documented : Documented failure) :
    ∃ refused, Refused.ofConfig failure = some refused ∧ Log.Plain refused.event.fields ∧
      refused.exit = refusalExit failure := by
  cases documented with
  | notFound => exact ⟨_, rfl, plain_because _ _ _, rfl⟩
  | malformed foreseen =>
      exact ⟨_, by rw [Refused.ofConfig, Refused.ofFile, if_pos foreseen], plain_because _ _ _, rfl⟩
  | notMapping => exact ⟨_, rfl, plain_because _ _ _, rfl⟩
  | @settings failure foreseen =>
      refine ⟨Refused.because "Invalid configuration" [] none .invalid, ?_, plain_because _ _ _, rfl⟩
      cases failure <;> first | contradiction | rfl

theorem ofConfig_of_not_documented {failure : Config.Failure} (undocumented : ¬ Documented failure) :
    Refused.ofConfig failure = none := by
  cases failure with
  | overrides => rfl
  | file failure =>
      cases failure with
      | notFound => exact absurd .notFound undocumented
      | notMapping => exact absurd .notMapping undocumented
      | nameTooLong | directory => rfl
      | malformed fault =>
          rw [Config.documented_malformed_iff] at undocumented
          rw [Refused.ofConfig, Refused.ofFile, if_neg undocumented]
  | settings failure =>
      rw [Config.documented_settings_iff] at undocumented
      cases failure <;> first | exact absurd rfl undocumented | rfl

section Run

variable {environment : Environment} {arguments : Arguments}
  {failure : Config.Failure}

/-- A run that is not configured ends in the refusal of the failure. -/
theorem run_of_failed
    (failed : (Config.load environment.loading arguments.choices.config
      (.map arguments.overrides)).settings = .error failure) {result : Except Breakdown Ending}
    (refuses : Yields (refuse (.config failure) (Refused.ofConfig failure)) Progress.start.sink
      result Progress.start.sink) :
    (run environment arguments).ending = result := by
  have events := plain_configEvents environment.loading arguments.choices.config
    (.map arguments.overrides)
  have yields : Yields (steps environment arguments) Progress.start.sink result
      Progress.start.sink := by
    rw [steps]
    refine .bind (yields_tellAll_plain .nil configLogger events)
      (.bind (yields_modify fun _ same => same) ?_)
    rw [failed]
    exact refuses
  exact (yields Progress.start rfl).1

theorem run_of_documented
    (failed : (Config.load environment.loading arguments.choices.config
      (.map arguments.overrides)).settings = .error failure)
    (documented : Documented failure) :
    (run environment arguments).ending = .ok ⟨refusalExit failure, ""⟩ := by
  obtain ⟨refused, told, plain, exit⟩ := ofConfig_of_documented documented
  refine run_of_failed failed ?_
  rw [told, ← exit]
  exact yields_refuse .nil _ plain

theorem run_of_not_documented
    (failed : (Config.load environment.loading arguments.choices.config
      (.map arguments.overrides)).settings = .error failure)
    (undocumented : ¬ Documented failure) :
    (run environment arguments).ending = .error (.config failure) := by
  refine run_of_failed failed ?_
  rw [ofConfig_of_not_documented undocumented]
  exact yields_throw _

end Run

/-- Settings are loaded, or there is a documented reason that they are not and the run exits, unless
something unforeseen breaks the run down. -/
theorem run_configured_iff (environment : Environment) (arguments : Arguments) :
    let loaded := (Config.load environment.loading arguments.choices.config
      (.map arguments.overrides)).settings
    let unforeseen := Config.Unforeseen environment.loading arguments.choices.config
      arguments.overrides
    ((∃ settings, loaded = .ok settings) ∨
      (∃ failure, loaded = .error failure ∧ Documented failure ∧
        (run environment arguments).ending = .ok ⟨refusalExit failure, ""⟩) ↔ ¬ unforeseen) ∧
    (unforeseen → ∃ failure, loaded = .error failure ∧ ¬ Documented failure ∧
      (run environment arguments).ending = .error (.config failure)) := by
  intro loaded unforeseen
  have undocumented : Config.Undocumented loaded ↔ unforeseen := Config.undocumented_load_iff
  rw [← undocumented]
  constructor
  · cases result : loaded with
    | ok settings =>
        exact iff_of_true (.inl ⟨settings, rfl⟩) (Config.not_undocumented_ok settings)
    | error failure =>
        rw [Config.undocumented_error_iff, not_not]
        constructor
        · rintro (⟨settings, same⟩ | ⟨failure', same, documented, -⟩)
          · contradiction
          · exact Except.error.inj same ▸ documented
        · exact fun documented => .inr ⟨failure, rfl, documented, run_of_documented result documented⟩
  · rintro ⟨failure, failed, undocumented⟩
    exact ⟨failure, failed, undocumented, run_of_not_documented failed undocumented⟩

/-- A directory in the place of the configuration breaks the run down. -/
theorem run_configured_iff_directory :
    let files : Files := [(".env", .file "".toUTF8), ("conf", .directory),
      ("o.json", .file "lsn: 1\ntxId: 2\n".toUTF8)]
    let environment : Environment := .standard [] files
    let arguments : Arguments := ⟨"o.json", ⟨some "conf", none, none, none⟩⟩
    Arguments.read ["o.json", "--config=conf"] = .ok arguments ∧
      (run environment arguments).ending = .error (.config (.file .directory)) := by
  intro files environment arguments
  have place : Config.Unforeseen environment.loading (some "conf") arguments.overrides :=
    .file (.place (by decide) (.inl rfl))
  obtain ⟨-, breaks⟩ := run_configured_iff environment arguments
  obtain ⟨failure, failed, -, ending⟩ := breaks place
  have directory : (Config.load environment.loading (some "conf")
      (.map arguments.overrides)).settings = .error (.file .directory) := by decide +kernel
  obtain rfl := Except.error.inj (directory.symm.trans failed)
  exact ⟨by decide +kernel, ending⟩

end WalCheckpoint.Inspection
