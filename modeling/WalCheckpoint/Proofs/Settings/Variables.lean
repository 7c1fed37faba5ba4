import Mathlib.Data.List.Nodup
import WalCheckpoint.Proofs.Value.Overlay
import WalCheckpoint.Settings

namespace WalCheckpoint.Settings

/-! Variables of single settings, and what becomes of sections where there are no other variables. -/

/-- The names under which single settings are looked for. -/
def variableNames : List String :=
  [ "CDC_SOURCE_SERVER_NAME", "CDC_SOURCE_DATABASE_NAME", "CDC_METRICS_PORT", "CDC_ENABLE_METRICS",
    "CDC_LOG_LEVEL", "CDC_LOG_FORMAT" ]

def variableBeginning : String := "cdc_"

/-- Variables that differ in name, of which those that could be settings are single settings. -/
structure SingleSettings (vars : List (String × String)) : Prop where
  distinct : (vars.map Prod.fst).Nodup
  known : ∀ entry ∈ vars, variableBeginning.toList <+: (Text.lower entry.1).toList →
    entry.1 ∈ variableNames

/-- Directives under which every text counts as it is, whatever the case of its name. -/
structure Directives.Literal (directives : Directives) : Prop where
  foldsCase : directives.matchesCase = false
  keepsEmpty : directives.skipsEmpty = false
  noNull : directives.nullText = none

theorem map_lower_variableNames : variableNames.map Text.lower =
    [ "cdc_source_server_name", "cdc_source_database_name", "cdc_metrics_port",
      "cdc_enable_metrics", "cdc_log_level", "cdc_log_format" ] := by decide +kernel

theorem variableNames_begin {name : String} (known : name ∈ variableNames) :
    variableBeginning.toList <+: (Text.lower name).toList := by
  have begins : ∀ lowered ∈ variableNames.map Text.lower,
      variableBeginning.toList <+: lowered.toList := by
    rw [map_lower_variableNames]
    decide
  exact begins _ (List.mem_map_of_mem known)

theorem variableNames_lower_inj {name name' : String} (known : name ∈ variableNames)
    (known' : name' ∈ variableNames) (same : Text.lower name = Text.lower name') : name = name' := by
  have distinct : (variableNames.map Text.lower).Nodup := by
    rw [map_lower_variableNames]
    decide
  exact List.inj_on_of_nodup_map distinct known known' same

variable {vars : List (String × String)} {environment : Environment} {directives : Directives}
  {name : String}

theorem SingleSettings.tail {entry : String × String} (single : SingleSettings (entry :: vars)) :
    SingleSettings vars :=
  ⟨(List.nodup_cons.mp single.distinct).2, (List.forall_mem_cons.mp single.known).2⟩

theorem own_eq (literal : directives.Literal) :
    environment.own directives = environment.vars.foldl
      (fun held entry => Keyed.insert (.string (Text.lower entry.1)) (some (.string entry.2)) held)
      [] := by
  have kept (entries : List (String × Option String)) :
      entries.filter (fun entry => !(directives.skipsEmpty && entry.2 == some "")) = entries :=
    List.filter_eq_self.mpr fun entry _ => by rw [literal.keepsEmpty]; rfl
  rw [Environment.own, Variables.ofEntries, kept, List.foldl_map]
  simp [Directives.fold, Directives.valueOf, literal.foldsCase, literal.noNull]

theorem get?_foldl_insert (single : SingleSettings vars) (known : name ∈ variableNames)
    (held : Variables) :
    Keyed.get? (vars.foldl
      (fun held entry => Keyed.insert (.string (Text.lower entry.1)) (some (.string entry.2)) held)
      held) (.string (Text.lower name)) =
        (vars.lookup name).elim (Keyed.get? held (.string (Text.lower name))) fun text =>
          some (some (.string text)) := by
  induction vars generalizing held with
  | nil => rfl
  | cons entry rest induction =>
      rw [List.foldl_cons, induction single.tail, Keyed.get?_insert, List.lookup_cons]
      by_cases same : name = entry.1
      · -- Variables differ in name, so none that comes later replaces this one.
        have absent : rest.lookup name = none := by
          rw [List.lookup_eq_none_iff]
          intro other member
          have away : name ≠ other.1 := fun same' => (List.nodup_cons.mp single.distinct).1
            (List.mem_map.mpr ⟨other, member, same'.symm.trans same⟩)
          simpa using away
        rw [absent, Option.elim_none, if_pos (congrArg Text.lower same), beq_iff_eq.mpr same]
        rfl
      · have away : Text.lower name ≠ Text.lower entry.1 := fun lowered =>
          same (variableNames_lower_inj known ((List.forall_mem_cons.mp single.known).1
            (lowered ▸ variableNames_begin known)) lowered)
        rw [if_neg away, beq_false_of_ne same]

theorem own_value? (single : SingleSettings environment.vars) (literal : directives.Literal)
    (known : name ∈ variableNames) :
    (environment.own directives).value? (Text.lower name) =
      (environment.vars.lookup name).map .string := by
  rw [Variables.value?, own_eq literal, get?_foldl_insert single known]
  cases environment.vars.lookup name <;> rfl

/-- Variables of which those that could be settings are single settings, by what they are known
by. -/
def Unsectioned (vars : Variables) : Prop :=
  ∀ entry ∈ vars, ∀ name, entry.1 = .string name →
    variableBeginning.toList <+: name.toList → name ∈ variableNames.map Text.lower

theorem unsectioned_own (single : SingleSettings environment.vars) (literal : directives.Literal) :
    Unsectioned (environment.own directives) := by
  rw [own_eq literal]
  refine List.foldlRecOn environment.vars _ (motive := Unsectioned) nofun
    fun held unsectioned entry member => ?_
  refine Keyed.forall_key_insert (P := fun key => ∀ name, key = .string name →
    variableBeginning.toList <+: name.toList → name ∈ variableNames.map Text.lower) unsectioned
    fun name spelled begins => ?_
  obtain rfl := Value.string.inj spelled
  exact List.mem_map_of_mem (single.known entry member begins)

theorem Unsectioned.value?_eq_none {vars : Variables} (unsectioned : Unsectioned vars)
    (begins : variableBeginning.toList <+: name.toList)
    (other : name ∉ variableNames.map Text.lower) : vars.value? name = none := by
  have absent : Keyed.get? vars (.string name) = none := by
    rw [Keyed.get?, List.find?_eq_none.mpr]
    · rfl
    · intro entry member same
      exact other (unsectioned entry member name (Value.sameKey_string_iff.mp same) begins)
  rw [Variables.value?, absent]
  rfl

theorem begins_of_afterText? {text cs rest : List Char} (after : Json.afterText? text cs = some rest) :
    text <+: cs := by
  induction text generalizing cs with
  | nil => exact List.nil_prefix
  | cons x text induction =>
      cases cs with
      | nil => contradiction
      | cons c cs =>
          rw [Json.afterText?] at after
          split at after
          · next same =>
              rw [same]
              exact List.cons_prefix_cons.mpr ⟨rfl, induction after⟩
          · contradiction

theorem begins_of_after? {beginning rest : String} {key : Value}
    (after : Variables.after? beginning key = some rest) :
    ∃ name, key = .string name ∧ beginning.toList <+: name.toList := by
  rw [Variables.after?.eq_def] at after
  split at after
  · next name =>
      obtain ⟨cs, after, -⟩ := Option.map_eq_some_iff.mp after
      exact ⟨name, rfl, begins_of_afterText? after⟩
  · contradiction

theorem Unsectioned.nested_eq_nil {vars : Variables} (unsectioned : Unsectioned vars)
    (begins : variableBeginning.toList <+: (name ++ directives.nestingMark).toList)
    (other : ∀ known ∈ variableNames.map Text.lower,
      ¬ (name ++ directives.nestingMark).toList <+: known.toList) :
    vars.nested directives name = [] := by
  rw [Variables.nested]
  split
  · rfl
  · refine List.foldlRecOn vars _ (motive := (· = [])) rfl fun m empty entry member => ?_
    dsimp only
    split
    · next rest after =>
        obtain ⟨spelling, spelled, above⟩ := begins_of_after? after
        exact absurd above
          (other spelling (unsectioned entry member spelling spelled (begins.trans above)))
    · exact empty

theorem Unsectioned.sectionsOf {vars : Variables} (unsectioned : Unsectioned vars) :
    sectionsOf outerDirectives vars = .ok ⟨none, none⟩ := by
  have absent {name folded : String} {known : List String}
      (known_by : outerDirectives.variableName name = folded)
      (begins : variableBeginning.toList <+: folded.toList)
      (beginsPart : variableBeginning.toList <+: (folded ++ outerDirectives.nestingMark).toList)
      (other : folded ∉ variableNames.map Text.lower)
      (otherPart : ∀ known ∈ variableNames.map Text.lower,
        ¬ (folded ++ outerDirectives.nestingMark).toList <+: known.toList) :
      vars.section? outerDirectives name known = .ok none := by
    rw [Variables.section?, known_by, unsectioned.value?_eq_none begins other,
      unsectioned.nested_eq_nil beginsPart otherPart]
  have source : outerDirectives.variableName sourceName = "cdc_source" := by decide +kernel
  have observability : outerDirectives.variableName observabilityName = "cdc_observability" := by
    decide +kernel
  rw [map_lower_variableNames] at absent
  rw [Settings.sectionsOf,
    absent source (by decide) (by decide) (by decide) (by decide),
    absent observability (by decide) (by decide) (by decide) (by decide)]
  rfl

end WalCheckpoint.Settings
