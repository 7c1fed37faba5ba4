import WalCheckpoint.Files
import WalCheckpoint.Settings.Field
import WalCheckpoint.Settings.VariableFile
import WalCheckpoint.Source

namespace WalCheckpoint

/-! Settings of an inspection: which source is read, and what is logged and measured. A
setting is taken from the given mapping, else from a section variable, else from a variable of
its own, else it has its default. -/

namespace Settings

structure Observability where
  metricsPort : Port
  metricsEnabled : Bool
  logLevel : Log.Level
  logFormat : Log.Format
  deriving DecidableEq

end Settings

structure Settings where
  source : Source
  observability : Settings.Observability
  deriving DecidableEq

namespace Settings

inductive Failure where
  | invalid (issues : List Issue)
  | reservedName
  | foreign
  | undecodableVariableFile
  | unreachableVariableFile
  | unreadableVariable (error : Variables.Error)
  deriving DecidableEq

def serverField : Field Name :=
  ⟨"server_name", readName, none⟩

def databaseField : Field Name :=
  ⟨"database_name", readName, none⟩

def portField : Field Port :=
  ⟨"metrics_port", readPort, some ⟨9090, by decide, by decide⟩⟩

def enabledField : Field Bool :=
  ⟨"enable_metrics", readSwitch, some false⟩

def levelField : Field Log.Level :=
  ⟨"log_level", readChoice levelChoices, some .info⟩

def formatField : Field Log.Format :=
  ⟨"log_format", readChoice formatChoices, some .json⟩

def sourceFields : List String :=
  [serverField.name, databaseField.name]

def observabilityFields : List String :=
  [portField.name, enabledField.name, levelField.name, formatField.name]

def sourceName : String := "source"

def observabilityName : String := "observability"

def variableFileName : String := ".env"

/-- How variables are read where nothing directs it: those of both sections together, and those of
each section by itself. -/
def outerDirectives : Directives :=
  ⟨"CDC_", "__", none, false, false, none, [variableFileName]⟩

def sourceDirectives : Directives :=
  ⟨"CDC_SOURCE_", "", none, false, false, none, []⟩

def observabilityDirectives : Directives :=
  ⟨"CDC_", "", none, false, false, none, []⟩

/-- The name that settings have for themselves is taken. -/
def ownName : String := "__pydantic_self__"

def isUsable (key : Value) : Bool :=
  match key with
  | .string name => name != ownName
  | .broken _ => true
  | _ => false

/-- Settings are given under names of their own. -/
def checkNames (given : Mapping) : Except Failure Unit :=
  if given.all fun entry => isUsable entry.1 then .ok () else .error .reservedName

/-- How settings are read where directives are given that are not followed here. What comes of the
library is taken as it is: settings or a failure, and how many statements of variable files are
passed over. -/
structure Library where
  source : Mapping → Except Failure Source
  observability : Mapping → Except Failure Observability
  settings : Option Source → Mapping → Except Failure Settings
  passedOver : Option Source → Mapping → Nat

/-- Reads a group of settings by its own directives, or leaves it to the library. -/
def directed (given : Mapping) (own other : Except Failure α) : Except Failure α := do
  checkNames given
  if Directives.areFollowed given then own else other

/-- What settings are read in: the variables, the files, and the library. -/
structure Environment where
  vars : List (String × String)
  files : Files
  library : Library

namespace Environment

def own (environment : Environment) (directives : Directives) : Variables :=
  Variables.ofEntries directives (environment.vars.map fun (name, text) => (name, some text))

def lookup? (environment : Environment) (name : String) : Option String :=
  (environment.vars.find? fun entry => entry.1 == name).map Prod.snd

def fileTexts (environment : Environment) : List String → Except Failure (List String)
  | [] => return []
  | path :: rest =>
      match environment.files.text path with
      | .error .notFound | .error .directory => environment.fileTexts rest
      | .error .nameTooLong => throw .unreachableVariableFile
      | .error .undecodable => throw .undecodableVariableFile
      | .ok text => return text :: (← environment.fileTexts rest)

def filed (environment : Environment) (directives : Directives) : Except Failure Variables := do
  let texts ← environment.fileTexts directives.files
  return Variables.ofEntries directives (texts.flatMap (VariableFile.read environment.lookup?))

def unreadableCount (environment : Environment) (directives : Directives) : Nat :=
  match environment.fileTexts directives.files with
  | .ok texts => texts.foldl (fun count text => count + VariableFile.unreadableCount text) 0
  | .error _ => 0

end Environment

/-- The variables that stand in for what a section is not given, and those of its files that no
setting of the section has. -/
structure StandIns where
  directives : Directives
  own : Variables
  filed : Variables

namespace StandIns

def read (environment : Environment) (directives : Directives) : Except Failure StandIns := do
  return ⟨directives, environment.own directives, ← environment.filed directives⟩

/-- Variables of files give way to others. -/
def lookup? (standIns : StandIns) (field : String) : Option Value :=
  let name := standIns.directives.variableName field
  match standIns.own.value? name with
  | some value => some value
  | none => standIns.filed.value? name

def unknown (standIns : StandIns) (fields : List String) : Mapping :=
  let known := fields ++ fields.map standIns.directives.variableName
  let empty := standIns.directives.valueOf ""
  standIns.filed.filterMap fun (name, value) =>
    if known.any (fun field => name == .string field) then none
    else (value.filter (· != empty)).map (name, ·)

def unknownFields (standIns : StandIns) (fields : List String) (given : Mapping) : List Issue :=
  Settings.unknownFields [] (standIns.unknown fields) ++
    Settings.unknownFields fields (Directives.without given)

end StandIns

/-- A name that is broken text hides every other issue. -/
def reported (given : Mapping) (issues : List Issue) : List Issue :=
  let isBroken (entry : Value × Value) : Bool :=
    match entry.1 with
    | .broken _ => true
    | _ => false
  if given.any isBroken then [⟨[], .notUnicode⟩] else issues

def sourceIssues (server database : Except Issue Name) (unknown : List Issue) : List Issue :=
  issuesOf server ++ issuesOf database ++ unknown

/-- Every issue of the section is reported, those of unknown fields last. -/
def sourceFrom (given : Mapping) (standIns : StandIns) : Except Failure Source :=
  let server := serverField.resolve given standIns.lookup?
  let database := databaseField.resolve given standIns.lookup?
  let unknown := standIns.unknownFields sourceFields given
  match server, database, unknown with
  | .ok server, .ok database, [] =>
      .ok ⟨server.val, database.val, server.ne_empty, database.ne_empty⟩
  | _, _, _ => .error (.invalid (reported given (sourceIssues server database unknown)))

def readSource (environment : Environment) (given : Mapping) : Except Failure Source :=
  directed given
    (StandIns.read environment (sourceDirectives.withGiven given) >>= sourceFrom given)
    (environment.library.source given)

def observabilityIssues (port : Except Issue Port) (enabled : Except Issue Bool)
    (level : Except Issue Log.Level) (format : Except Issue Log.Format) (unknown : List Issue) :
    List Issue :=
  issuesOf port ++ issuesOf enabled ++ issuesOf level ++ issuesOf format ++ unknown

def observabilityFrom (given : Mapping) (standIns : StandIns) : Except Failure Observability :=
  let port := portField.resolve given standIns.lookup?
  let enabled := enabledField.resolve given standIns.lookup?
  let level := levelField.resolve given standIns.lookup?
  let format := formatField.resolve given standIns.lookup?
  let unknown := standIns.unknownFields observabilityFields given
  match port, enabled, level, format, unknown with
  | .ok port, .ok enabled, .ok level, .ok format, [] => .ok ⟨port, enabled, level, format⟩
  | _, _, _, _, _ =>
      .error (.invalid (reported given (observabilityIssues port enabled level format unknown)))

def readObservability (environment : Environment) (given : Mapping) :
    Except Failure Observability :=
  directed given
    (StandIns.read environment (observabilityDirectives.withGiven given) >>= observabilityFrom given)
    (environment.library.observability given)

/-- A section whose variables or file cannot be read has an issue like any other. -/
def Failure.within (name : String) : Failure → Failure
  | .invalid issues => .invalid (issues.map (Issue.within name))
  | .undecodableVariableFile => .invalid [⟨[name], .unreadable⟩]
  | .unreadableVariable _ => .invalid [⟨[name], .unreadable⟩]
  | failure => failure

def readSection (name : String) (read : Mapping → Except Failure α) :
    Value → Except Failure α
  | .map given => (read given).mapError (Failure.within name)
  | _ => .error (.invalid [⟨[name], .notSection⟩])

/-- Issues of both sections are reported together; any other failure stands alone. -/
def both (first : Except Failure α) (second : Except Failure β) : Except Failure (α × β) :=
  match first, second with
  | .ok a, .ok b => .ok (a, b)
  | .error (.invalid issues), .error (.invalid issues') => .error (.invalid (issues ++ issues'))
  | .error (.invalid _), .error failure => .error failure
  | .error failure, _ => .error failure
  | .ok _, .error failure => .error failure

structure Sections where
  source : Option Value
  observability : Option Value
  deriving DecidableEq

def sectionsOf (directives : Directives) (vars : Variables) : Except Failure Sections := do
  let source ← (vars.section? directives sourceName sourceFields).mapError .unreadableVariable
  let observability ← (vars.section? directives observabilityName observabilityFields).mapError
    .unreadableVariable
  return ⟨source, observability⟩

def layered (lower upper : Option Value) : Option Value :=
  match upper with
  | none => lower
  | some upper => some (Mapping.overlayValue lower upper)

/-- Where the given mapping does not speak of the source at all, its names are those of the
variables, and section variables do not count for it. -/
def sourceOfVariables (environment : Environment) (given : Mapping) :
    Except Failure (Option Source) :=
  match given.field? sourceName with
  | none => (readSource environment []).map some
  | some _ => .ok none

/-- Variable files that a given mapping names, for all settings and for those of one section. -/
def filesNamed (given : Mapping) : List String :=
  let named (given : Mapping) : List String :=
    (given.field? Directives.filesName).elim [] fun value =>
      (Directives.paths value).filterMap Directives.textOf?
  let namedWithin (name : String) : List String :=
    match given? given name with
    | some (.map inner) => named inner
    | _ => []
  named given ++ namedWithin sourceName ++ namedWithin observabilityName

/-- Statements of variable files that reading settings passes over. The files are not looked at
before the source of the variables is known. -/
def passedOver (environment : Environment) (given : Mapping) : Nat :=
  match sourceOfVariables environment given, checkNames given with
  | .ok source?, .ok () =>
      if Directives.areFollowed given then
        environment.unreadableCount (outerDirectives.withGiven given)
      else environment.library.passedOver source? given
  | _, _ => 0

/-- The sections that settings are read from: what is given, over what variables say of them. -/
def gather (environment : Environment) (given : Mapping) : Except Failure Sections := do
  let directives := outerDirectives.withGiven given
  let filed ← environment.filed directives
  let upper ← sectionsOf directives (environment.own directives)
  let lower ← sectionsOf directives filed
  return {
    source := layered (layered lower.source upper.source) (given? given sourceName)
    observability := layered (layered lower.observability upper.observability)
      (given? given observabilityName) }

/-- The source of settings, whose section is read unless it is already taken from variables. -/
def sourceIn (environment : Environment) (source? : Option Source) (sections : Sections) :
    Except Failure Source :=
  match source? with
  | some source => .ok source
  | none => readSection sourceName (readSource environment) (sections.source.getD .null)

/-- Settings from the sections that are gathered for them. -/
def gathered (environment : Environment) (source : Except Failure Source) (sections : Sections) :
    Except Failure Settings := do
  let (source, observability) ←
    match sections.observability with
    | some value =>
        both source (readSection observabilityName (readObservability environment) value)
    | none =>
        match source, readObservability environment [] with
        | .error (.invalid issues), .ok _ => throw (.invalid issues)
        | .error (.invalid _), .error failure => throw failure
        | .error failure, _ => throw failure
        | .ok _, .error failure => throw failure
        | .ok source, .ok observability => pure (source, observability)
  return ⟨source, observability⟩

def readWith (environment : Environment) (source? : Option Source) (given : Mapping) :
    Except Failure Settings := do
  let sections ← gather environment given
  gathered environment (sourceIn environment source? sections) sections

def read (environment : Environment) (given : Mapping) : Except Failure Settings := do
  let source? ← sourceOfVariables environment given
  directed given (readWith environment source? given) (environment.library.settings source? given)

end Settings

end WalCheckpoint
