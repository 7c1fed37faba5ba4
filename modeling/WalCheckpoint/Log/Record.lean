import WalCheckpoint.Json.Write
import WalCheckpoint.Log.Event
import WalCheckpoint.Value.Template

namespace WalCheckpoint.Log

/-! Events as loggers tell them, and the lines that tell them. -/

/-- Why an event has no line: a value cannot be written, what is to be shown below the line is no
text, the values for the event do not fit into it, or a field has a name that is not free. -/
inductive Failure where
  | unwritable (error : Json.Unwritable)
  | notText
  | unfillable (fault : Value.Template.Fault)
  | reservedField
  | foreignRecord
  deriving DecidableEq, Repr

structure Record where
  logger : String
  level : Level
  event : String
  fields : List (String × Value)
  deriving DecidableEq

namespace Record

def rootName : String := "root"

/-! Names of fields that are not only told. -/

def argumentsName : String := "positional_args"

def recordName : String := "_record"

def stackName : String := "stack"

def exceptionName : String := "exception"

def otherLoggerName : String := "logger_name"

/-- What asks for the stack and for the failure at hand. There is neither. -/
def requestNames : List String := ["stack_info", "exc_info"]

/-- Bound fields give way to the event's own; the time of writing is not kept. -/
def ofEvent (logger : String) (event : Event) (bound : List (String × Value)) : Record :=
  let kept (field : String × Value) : Bool :=
    !(["event", "level", "logger", "timestamp"].contains field.1)
  let free := bound.filter fun field => !(event.fields.any fun own => own.1 == field.1)
  { logger := if logger = "" then rootName else logger
    level := event.level
    event := event.name
    fields := (free ++ event.fields).filter kept }

def field? (r : Record) (name : String) : Option Value :=
  (r.fields.find? fun field => field.1 == name).map Prod.snd

def without (names : List String) (r : Record) : Record :=
  { r with fields := r.fields.filter fun field => !names.contains field.1 }

/-- What is filled into the event. A mapping by itself in a list, or under the number zero in a
mapping, is filled in by its names. -/
def argumentOf : Value → Except Value.Template.Fault Value
  | .list [.map entries] =>
      if entries.isEmpty then .ok (.list [.map entries]) else .ok (.map entries)
  | .list items => .ok (.list items)
  | .string s => .ok (.string s)
  | .broken text => .ok (.broken text)
  | .bytes bs => .ok (.bytes bs)
  | .pair first second => .ok (.pair first second)
  | .set members => if members.length = 1 then .error .badValue else .ok (.set members)
  | .map [entry] =>
      match Keyed.get? [entry] (.int 0) with
      | none => .error .unknownName
      | some (.map entries) =>
          if entries.isEmpty then .ok (.map [entry]) else .ok (.map entries)
      | some _ => .ok (.map [entry])
  | .map entries => .ok (.map entries)
  | _ => .error .badValue

/-- The event with its arguments filled in. Null stands for none at all and is told like any other
field. -/
def fillEvent (r : Record) : Except Failure Record :=
  match r.field? argumentsName with
  | none | some .null => .ok r
  | some arguments =>
      let r' := r.without [argumentsName]
      if arguments.isTruthy then
        match argumentOf arguments >>= Value.Template.fill r.event with
        | .ok event => .ok { r' with event := event }
        | .error fault => .error (.unfillable fault)
      else .ok r'

/-- Bytes are told as the text they hold. -/
def decoded : Value → Value
  | .bytes bs => .string (Text.Bytes.lossy bs)
  | value => value

def decodeFields (r : Record) : Record :=
  { r with fields := r.fields.map fun field => (field.1, decoded field.2) }

def prepare (r : Record) : Except Failure Record := do
  if (r.field? recordName).any (· != .null) then throw .foreignRecord
  let r ← r.fillEvent
  return (r.without requestNames).decodeFields

def toMapping (r : Record) : Mapping :=
  Mapping.ofFields
    ([ ("event", .string r.event), ("level", .string r.level.name),
      ("logger", .string r.logger) ] ++ r.fields)

def shown (text : Option String) : Except Failure String :=
  text.elim (.error (.unwritable .numeral)) .ok

def needsQuotes (s : String) : Bool :=
  s.toList.any fun c => " \t=\r\n\"'".toList.contains c

/-- Text stands without quotes where it could not be misread. -/
def fieldText? : Value → Option String
  | .string s => if needsQuotes s then (Value.string s).display? else some s
  | value => value.display?

def consoleFields : List (String × Value) → Except Failure (List String)
  | [] => .ok []
  | (name, value) :: rest => do
      let text ← shown (fieldText? value)
      let texts ← consoleFields rest
      return s!"{name}={text}" :: texts

def belowText (r : Record) (name : String) : Except Failure (Option String) :=
  match r.field? name with
  | none | some .null => .ok none
  | some (.string s) => .ok (some s)
  | some _ => .error .notText

def separator : String := String.ofList (List.replicate 79 '=')

/-- The text for people: the level, the event, its logger and its fields, and below them a stack
and a failure. The layout is a stand-in, without times, padding and colours: what is kept is whether
there is a text. -/
def console (r : Record) : Except Failure String := do
  let other ←
    match r.field? otherLoggerName with
    | some name => pure [s!"[{← shown name.text?}]"]
    | none => pure []
  let texts ← consoleFields (r.without [stackName, exceptionName, otherLoggerName]).fields
  let line := " ".intercalate ([s!"[{r.level.name}]", r.event, s!"[{r.logger}]"] ++ other ++ texts)
  let stack ← r.belowText stackName
  let failure ← r.belowText exceptionName
  let below :=
    match stack, failure with
    | some stack, some failure => [stack, "", separator, "", failure]
    | some stack, none => [stack]
    | none, some failure => [failure]
    | none, none => []
  return "\n".intercalate (line :: below)

end Record

/-- A written line: an object for machines, or text for people. -/
inductive Line where
  | object (fields : Value)
  | text (content : String)
  deriving DecidableEq

namespace Line

def ofRecord (format : Format) (r : Record) : Except Failure Line :=
  match format with
  | .json => ((Json.image? (.map r.toMapping)).map .object).mapError .unwritable
  | .console => r.console.map .text

def toText : Line → String
  | .object fields => String.ofList (Json.write .line 0 fields)
  | .text content => content

end Line

end WalCheckpoint.Log
