import WalCheckpoint.Json.Read
import WalCheckpoint.Settings.Directives
import WalCheckpoint.Value.Overlay

namespace WalCheckpoint.Settings

/-! Settings from variables: text under names. A variable may be named without a text. -/

/-- The variables in the order in which their names first came, with what their texts stand for. -/
abbrev Variables := Keyed (Option Value)

namespace Variables

/-- Of two variables under one name the later one counts. -/
def ofEntries (directives : Directives) (vars : List (String × Option String)) : Variables :=
  (vars.filter fun entry => !(directives.skipsEmpty && entry.2 == some "")).foldl
    (fun held (name, text) =>
      Keyed.insert (.string (directives.fold name)) (text.map directives.valueOf) held)
    []

/-- What a variable stands for; one without a text does not count. -/
def value? (vars : Variables) (name : String) : Option Value :=
  (Keyed.get? vars (.string name)).join

/-- Null that stands in a text does not replace a value. -/
def insertLast (name : String) (value : Option Value) (m : Mapping) : Mapping :=
  let isHeld := (m.field? name).any fun held => held != .map []
  if value = some .null ∧ isHeld then m else Keyed.insert (.string name) (value.getD .null) m

/-- Puts a value at the end of a path of names. A value that is no mapping has nothing below
it. -/
def insertAt : List String → Option Value → Mapping → Mapping
  | [], _, m => m
  | [name], value, m => insertLast name value m
  | name :: rest, value, m =>
      match m.field? name with
      | none => Keyed.insert (.string name) (.map (insertAt rest value [])) m
      | some (.map inner) =>
          Keyed.insert (.string name) (.map (insertAt rest value inner)) m
      | some _ => m

def after? (beginning : String) : Value → Option String
  | .string name => (Json.afterText? beginning.toList name.toList).map String.ofList
  | _ => none

/-- The parts of a name; behind the last mark that counts, marks belong to the name. -/
def partsOf (directives : Directives) (name : String) : List String :=
  let parts := name.splitOn directives.nestingMark
  match directives.markLimit with
  | none => parts
  | some limit =>
      match parts.drop limit with
      | [] => parts
      | rest => parts.take limit ++ [directives.nestingMark.intercalate rest]

def nested (vars : Variables) (directives : Directives) (name : String) : Mapping :=
  if directives.nestingMark = "" then []
  else
    vars.foldl
      (fun m (key, value) =>
        match after? (name ++ directives.nestingMark) key with
        | some rest => insertAt (partsOf directives rest) value m
        | none => m)
      []

/-- A section's variable is not JSON. -/
inductive Error where
  | unreadable (name : String)
  deriving DecidableEq, Repr

/-- Spells names of known settings as they are known. -/
def respell (known : List String) : Value → Value
  | .map m => .map <| Mapping.ofEntries <| m.map fun (key, value) =>
      match key with
      | .string s => (.string ((known.find? fun name => name == Text.lower s).getD s), value)
      | key => (key, value)
  | value => value

/-- What the variables say about a section: the JSON value of the section's own variable, with
the variables of single settings over it. Where the case of letters does not count, names of known
settings are read in either case. -/
def section? (vars : Variables) (directives : Directives) (name : String) (known : List String) :
    Except Error (Option Value) :=
  let name := directives.variableName name
  let nested := vars.nested directives name
  let spelled (value : Value) : Value :=
    if directives.matchesCase then value else respell known value
  match vars.value? name with
  | some (.string text) =>
      match Json.read? text with
      | none => .error (.unreadable name)
      | some .null => .ok none
      | some (.map m) => .ok (some (spelled (.map (Mapping.overlay m nested))))
      | some value => .ok (some value)
  | some value => .ok (some value)
  | none =>
      match nested with
      | [] => .ok none
      | m => .ok (some (spelled (.map m)))

end Variables

end WalCheckpoint.Settings
