namespace WalCheckpoint.Settings

/-! What can be wrong with a setting. -/

inductive Problem where
  | missing
  | notText
  | notUnicode
  | emptyText
  | blankText
  | noSuchChoice
  | unknownField
  | notSection
  | notNumeral
  | numeralTooLong
  | notNumber
  | notWhole
  | notFinite
  | tooSmall
  | tooLarge
  | notSwitchWord
  | notSwitch
  | unreadable
  deriving DecidableEq, Repr

def Problem.code : Problem → String
  | .missing => "missing"
  | .notText => "string_type"
  | .notUnicode => "string_unicode"
  | .emptyText => "string_too_short"
  | .blankText => "value_error"
  | .noSuchChoice => "string_pattern_mismatch"
  | .unknownField => "extra_forbidden"
  | .notSection => "model_type"
  | .notNumeral => "int_parsing"
  | .numeralTooLong => "int_parsing_size"
  | .notNumber => "int_type"
  | .notWhole => "int_from_float"
  | .notFinite => "finite_number"
  | .tooSmall => "greater_than_equal"
  | .tooLarge => "less_than_equal"
  | .notSwitchWord => "bool_parsing"
  | .notSwitch => "bool_type"
  | .unreadable => "value_error"

structure Issue where
  path : List String
  problem : Problem
  deriving DecidableEq, Repr

def Issue.within (name : String) (issue : Issue) : Issue :=
  { issue with path := name :: issue.path }

def issuesOf : Except Issue α → List Issue
  | .ok _ => []
  | .error issue => [issue]

@[simp] theorem issuesOf_ok (a : α) : issuesOf (.ok a) = [] := rfl

@[simp] theorem issuesOf_error (issue : Issue) :
    issuesOf (.error issue : Except Issue α) = [issue] := rfl

end WalCheckpoint.Settings
