import WalCheckpoint.Settings

namespace WalCheckpoint.Settings

/-! Settings that cannot be read for a reason that is no issue of theirs: a name that is none, a
directive that the library fails on, or a variable file that cannot be reached. -/

def Failure.isForeseen : Failure → Bool
  | .reservedName | .foreign | .unreachableVariableFile => false
  | _ => true

/-- A reading that ends in a failure which is not foreseen. -/
def Breaks (read : Except Failure α) : Prop :=
  ∃ failure, read = .error failure ∧ failure.isForeseen = false

theorem not_breaks_ok (a : α) : ¬ Breaks (.ok a : Except Failure α) := by
  rintro ⟨failure, same, -⟩
  contradiction

theorem breaks_error_iff {failure : Failure} :
    Breaks (.error failure : Except Failure α) ↔ failure.isForeseen = false := by
  constructor
  · rintro ⟨failure', same, unforeseen⟩
    obtain rfl := Except.error.inj same
    exact unforeseen
  · exact fun unforeseen => ⟨failure, rfl, unforeseen⟩

theorem not_breaks_invalid (issues : List Issue) :
    ¬ Breaks (.error (.invalid issues) : Except Failure α) := by
  rw [breaks_error_iff]
  nofun

theorem bind_eq_error_iff {read : Except Failure α} {next : α → Except Failure β}
    {failure : Failure} :
    (read >>= next) = .error failure ↔
      read = .error failure ∨ ∃ a, read = .ok a ∧ next a = .error failure := by
  cases read with
  | error failure' => simp [bind, Except.bind]
  | ok a => simp [bind, Except.bind]

theorem breaks_bind_iff {read : Except Failure α} {next : α → Except Failure β} :
    Breaks (read >>= next) ↔ Breaks read ∨ ∃ a, read = .ok a ∧ Breaks (next a) := by
  simp only [Breaks, bind_eq_error_iff]
  constructor
  · rintro ⟨failure, failed | ⟨a, first, failed⟩, unforeseen⟩
    · exact .inl ⟨failure, failed, unforeseen⟩
    · exact .inr ⟨a, first, failure, failed, unforeseen⟩
  · rintro (⟨failure, failed, unforeseen⟩ | ⟨a, first, failure, failed, unforeseen⟩)
    · exact ⟨failure, .inl failed, unforeseen⟩
    · exact ⟨failure, .inr ⟨a, first, failed⟩, unforeseen⟩

/-- What comes after a first reading breaks or does not, whatever the first one finds. -/
theorem breaks_bind_of_not_breaks {read : Except Failure α} {next : α → Except Failure β}
    (whole : ∀ a, ¬ Breaks (next a)) : Breaks (read >>= next) ↔ Breaks read := by
  rw [breaks_bind_iff]
  refine or_iff_left ?_
  rintro ⟨a, -, breaks⟩
  exact whole a breaks

/-! The variables of one group of settings. -/

variable {environment : Environment} {default directives : Directives} {given : Mapping}

/-- A variable file whose path is too long, with none before it that cannot be decoded. -/
def Unreachable (files : Files) (paths : List String) : Prop :=
  ∃ before path after, paths = before ++ path :: after ∧
    (∀ earlier ∈ before, files.text earlier ≠ .error .nameTooLong ∧
      files.text earlier ≠ .error .undecodable) ∧
    files.text path = .error .nameTooLong

/-- What is given is read by its own directives. -/
structure Followed (given : Mapping) : Prop where
  usable : ∀ entry ∈ given, isUsable entry.1 = true
  follows : Directives.areFollowed given = true

/-- What keeps a group of settings from being read at all: a name that is none, what the library
makes of a directive that is not followed, or a variable file out of reach. -/
inductive Unforeseen (files : Files) (default : Directives) (given : Mapping)
    (other : Except Failure α) : Prop
  | name {entry : Value × Value} (member : entry ∈ given) (unusable : isUsable entry.1 = false)
  | directive (usable : ∀ entry ∈ given, isUsable entry.1 = true)
      (unfollowed : Directives.areFollowed given = false) (breaks : Breaks other)
  | file (followed : Followed given)
      (unreachable : Unreachable files (default.withGiven given).files)

theorem checkNames_of_usable (usable : ∀ entry ∈ given, isUsable entry.1 = true) :
    checkNames given = .ok () := by
  rw [checkNames, if_pos (List.all_eq_true.mpr usable)]

theorem checkNames_of_unusable {entry : Value × Value} (member : entry ∈ given)
    (unusable : isUsable entry.1 = false) : checkNames given = .error .reservedName := by
  have some : ¬ (given.all fun entry => isUsable entry.1) = true := fun usable => by
    rw [List.all_eq_true.mp usable entry member] at unusable
    contradiction
  rw [checkNames, if_neg some]

theorem usable_or_unusable (given : Mapping) :
    (∀ entry ∈ given, isUsable entry.1 = true) ∨ ∃ entry ∈ given, isUsable entry.1 = false := by
  cases all : given.all fun entry => isUsable entry.1 with
  | true => exact .inl (List.all_eq_true.mp all)
  | false =>
      obtain ⟨entry, member, unusable⟩ := List.all_eq_false.mp all
      exact .inr ⟨entry, member, eq_false_of_ne_true unusable⟩

section Directed

variable {own other : Except Failure α}

theorem directed_of_followed (followed : Followed given) : directed given own other = own := by
  rw [directed, checkNames_of_usable followed.usable]
  exact if_pos followed.follows

theorem directed_of_unfollowed (usable : ∀ entry ∈ given, isUsable entry.1 = true)
    (unfollowed : Directives.areFollowed given = false) : directed given own other = other := by
  rw [directed, checkNames_of_usable usable]
  exact if_neg (by simp [unfollowed])

theorem directed_of_unusable {entry : Value × Value} (member : entry ∈ given)
    (unusable : isUsable entry.1 = false) : directed given own other = .error .reservedName := by
  rw [directed, checkNames_of_unusable member unusable]
  rfl

theorem breaks_directed_iff {files : Files} {breaksOwn : Prop}
    (breaks : Breaks own ↔ Unreachable files (default.withGiven given).files ∨ breaksOwn) :
    Breaks (directed given own other) ↔
      Unforeseen files default given other ∨ Followed given ∧ breaksOwn := by
  rcases usable_or_unusable given with usable | ⟨entry, member, unusable⟩
  · cases follows : Directives.areFollowed given with
    | true =>
        have followed : Followed given := ⟨usable, follows⟩
        rw [directed_of_followed followed, breaks, and_iff_right followed]
        refine or_congr_left ⟨.file followed, ?_⟩
        rintro (⟨member, unusable⟩ | ⟨-, unfollowed, -⟩ | ⟨-, unreachable⟩)
        · rw [usable _ member] at unusable
          contradiction
        · rw [follows] at unfollowed
          contradiction
        · exact unreachable
    | false =>
        rw [directed_of_unfollowed usable follows]
        constructor
        · exact fun breaks => .inl (.directive usable follows breaks)
        · rintro ((⟨member, unusable⟩ | ⟨-, -, breaks⟩ | ⟨followed, -⟩) | ⟨followed, -⟩)
          · rw [usable _ member] at unusable
            contradiction
          · exact breaks
          · rw [followed.follows] at follows
            contradiction
          · rw [followed.follows] at follows
            contradiction
  · rw [directed_of_unusable member unusable]
    exact iff_of_true (breaks_error_iff.mpr rfl) (.inl (.name member unusable))

end Directed

theorem not_unreachable_nil (files : Files) : ¬ Unreachable files [] := by
  rintro ⟨before, path, after, same, -⟩
  exact absurd same.symm (List.append_ne_nil_of_right_ne_nil before (List.cons_ne_nil _ _))

theorem unreachable_cons_iff {files : Files} {path : String} {rest : List String} :
    Unreachable files (path :: rest) ↔ files.text path = .error .nameTooLong ∨
      (files.text path ≠ .error .nameTooLong ∧ files.text path ≠ .error .undecodable) ∧
        Unreachable files rest := by
  constructor
  · rintro ⟨before, path', after, same, passed, long⟩
    cases before with
    | nil => exact .inl ((List.cons.inj same).1 ▸ long)
    | cons first before =>
        obtain ⟨rfl, rfl⟩ := List.cons.inj same
        obtain ⟨here, later⟩ := List.forall_mem_cons.mp passed
        exact .inr ⟨here, before, path', after, rfl, later, long⟩
  · rintro (long | ⟨here, before, path', after, rfl, later, long⟩)
    · exact ⟨[], path, rest, rfl, nofun, long⟩
    · exact ⟨path :: before, path', after, rfl, List.forall_mem_cons.mpr ⟨here, later⟩, long⟩

theorem breaks_fileTexts_iff (paths : List String) :
    Breaks (environment.fileTexts paths) ↔ Unreachable environment.files paths := by
  induction paths with
  | nil => exact iff_of_false (not_breaks_ok _) (not_unreachable_nil _)
  | cons path rest induction =>
      rw [Environment.fileTexts, unreachable_cons_iff, ← induction]
      cases environment.files.text path with
      | ok text =>
          refine (breaks_bind_of_not_breaks fun texts => not_breaks_ok _).trans ?_
          simp
      | error error =>
          cases error with
          | notFound => simp
          | directory => simp
          | nameTooLong => exact iff_of_true (breaks_error_iff.mpr rfl) (.inl rfl)
          | undecodable =>
              refine iff_of_false (fun breaks => ?_) (by simp)
              exact absurd (breaks_error_iff.mp breaks) nofun

theorem breaks_filed_iff :
    Breaks (environment.filed directives) ↔ Unreachable environment.files directives.files := by
  rw [Environment.filed, ← breaks_fileTexts_iff]
  exact breaks_bind_of_not_breaks fun texts => not_breaks_ok _

theorem breaks_standIns_bind_iff {next : StandIns → Except Failure α}
    (whole : ∀ standIns, ¬ Breaks (next standIns)) :
    Breaks (StandIns.read environment directives >>= next) ↔
      Unreachable environment.files directives.files := by
  rw [breaks_bind_of_not_breaks whole, ← breaks_filed_iff]
  exact breaks_bind_of_not_breaks fun filed => not_breaks_ok _

theorem not_breaks_sourceFrom (standIns : StandIns) : ¬ Breaks (sourceFrom given standIns) := by
  rw [sourceFrom]
  split
  · exact not_breaks_ok _
  · exact not_breaks_invalid _

theorem not_breaks_observabilityFrom (standIns : StandIns) :
    ¬ Breaks (observabilityFrom given standIns) := by
  rw [observabilityFrom]
  split
  · exact not_breaks_ok _
  · exact not_breaks_invalid _

theorem breaks_readSource_iff :
    Breaks (readSource environment given) ↔
      Unforeseen environment.files sourceDirectives given (environment.library.source given) := by
  have own : Breaks (StandIns.read environment (sourceDirectives.withGiven given) >>= sourceFrom given) ↔
      Unreachable environment.files (sourceDirectives.withGiven given).files ∨ False := by
    rw [breaks_standIns_bind_iff not_breaks_sourceFrom, or_false]
  rw [readSource, breaks_directed_iff own, and_false, or_false]

theorem breaks_readObservability_iff :
    Breaks (readObservability environment given) ↔
      Unforeseen environment.files observabilityDirectives given
        (environment.library.observability given) := by
  have own : Breaks (StandIns.read environment (observabilityDirectives.withGiven given) >>=
      observabilityFrom given) ↔
        Unreachable environment.files (observabilityDirectives.withGiven given).files ∨ False := by
    rw [breaks_standIns_bind_iff not_breaks_observabilityFrom, or_false]
  rw [readObservability, breaks_directed_iff own, and_false, or_false]

/-- Nothing directs how the variables of an empty group are read. -/
theorem not_unforeseen_nil {files : Files} {other : Except Failure α}
    (unfiled : default.files = []) : ¬ Unforeseen files default [] other := by
  rintro (⟨member, -⟩ | ⟨-, unfollowed, -⟩ | ⟨-, unreachable⟩)
  · exact List.not_mem_nil member
  · contradiction
  · exact not_unreachable_nil files (unfiled ▸ unreachable)

end WalCheckpoint.Settings
