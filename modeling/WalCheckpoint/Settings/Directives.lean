import WalCheckpoint.Text.Lower
import WalCheckpoint.Value

namespace WalCheckpoint.Settings

/-! How variables are read. Names that begin with an underscore are no settings: they direct how
the settings around them are read. Of most of them only the absence is followed here, and of the
others the values that name what they direct. -/

/-- How variables are read: what their names begin with, what stands between the parts of a name
that lead to a nested setting and how many such marks count, whether the case of letters counts in
names, whether variables without text count, the text that stands for null, and the files of
further variables. -/
structure Directives where
  beginning : String
  nestingMark : String
  markLimit : Option Nat
  matchesCase : Bool
  skipsEmpty : Bool
  nullText : Option String
  files : List String
  deriving DecidableEq, Repr

namespace Directives

def beginningName : String := "_env_prefix"

def nestingMarkName : String := "_env_nested_delimiter"

def markLimitName : String := "_env_nested_max_split"

def matchesCaseName : String := "_case_sensitive"

def skipsEmptyName : String := "_env_ignore_empty"

def nullTextName : String := "_env_parse_none_str"

def filesName : String := "_env_file"

def otherNames : List String :=
  [ "_nested_model_default_partial_update", "_env_prefix_target", "_env_file_encoding",
    "_env_parse_enums", "_cli_prog_name", "_cli_parse_args", "_cli_settings_source",
    "_cli_parse_none_str", "_cli_hide_none_type", "_cli_avoid_json", "_cli_enforce_required",
    "_cli_use_class_docs_for_groups", "_cli_exit_on_error", "_cli_prefix",
    "_cli_flag_prefix_char", "_cli_implicit_flags", "_cli_ignore_unknown_args",
    "_cli_kebab_case", "_cli_shortcuts", "_secrets_dir", "_build_sources" ]

def names : List String :=
  [ beginningName, nestingMarkName, markLimitName, matchesCaseName, skipsEmptyName, nullTextName,
    filesName ] ++ otherNames

def isName : Value → Bool
  | .string name => names.contains name
  | _ => false

def without (given : Mapping) : Mapping :=
  given.filter fun entry => !isName entry.1

/-- A name as variables are known by it. -/
def fold (directives : Directives) (name : String) : String :=
  if directives.matchesCase then name else Text.lower name

def variableName (directives : Directives) (name : String) : String :=
  directives.fold (directives.beginning ++ name)

def valueOf (directives : Directives) (text : String) : Value :=
  if directives.nullText = some text then .null else .string text

def given? (given : Mapping) (name : String) : Option Value :=
  (given.field? name).filter fun value => value != .null

def switch (given : Mapping) (name : String) (default : Bool) : Bool :=
  (given? given name).elim default Value.isTruthy

def textOf? : Value → Option String
  | .string s => some s
  | _ => none

/-- A number of parts, of which all but the last end in a mark. Values that count as false and
numbers below one set no limit. -/
def limitOf : Value → Option Nat
  | .bool true => some 0
  | .int n => if 0 < n then some (n.toNat - 1) else none
  | _ => none

/-- A file, or files in turn. -/
def paths : Value → List Value
  | .null => []
  | .list paths => paths
  | .set paths => paths
  | .pair first second => [first, second]
  | .map paths => paths.map Prod.fst
  | path => [path]

/-- The directives among what is given, over those that hold without them. -/
def withGiven (default : Directives) (given : Mapping) : Directives where
  beginning := ((given? given beginningName).bind textOf?).getD default.beginning
  nestingMark := ((given? given nestingMarkName).bind textOf?).getD default.nestingMark
  markLimit := (given? given markLimitName).elim default.markLimit limitOf
  matchesCase := switch given matchesCaseName default.matchesCase
  skipsEmpty := switch given skipsEmptyName default.skipsEmpty
  nullText := (given? given nullTextName).elim default.nullText textOf?
  files := (given.field? filesName).elim default.files fun value =>
    (paths value).filterMap textOf?

/-! Which directives are followed. -/

def isText (value : Value) : Bool :=
  (textOf? value).isSome

/-- Half the numbers of parts that a machine counts. -/
def limitBound : Nat := 0x8000000000000000

def isLimit : Value → Bool
  | .bool _ => true
  | .int n => n.natAbs < limitBound
  | value => !value.isTruthy

/-- A path without a home directory. -/
def isPath : Value → Bool
  | .string path => path.toList.head? != some '~'
  | _ => false

def follows (name : String) (value : Value) : Bool :=
  if name = filesName then (paths value).all isPath
  else if value = .null then true
  else if name = beginningName ∨ name = nestingMarkName then isText value
  else if name = markLimitName then isLimit value
  else !otherNames.contains name

def areFollowed (given : Mapping) : Bool :=
  given.all fun entry => (textOf? entry.1).all fun name => follows name entry.2

end Directives

end WalCheckpoint.Settings
