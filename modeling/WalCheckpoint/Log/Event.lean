import WalCheckpoint.Value

namespace WalCheckpoint.Log

/-! Events worth a line in the log. -/

inductive Level where
  | debug
  | info
  | warning
  | error
  | critical
  deriving DecidableEq, Repr

namespace Level

def name : Level → String
  | .debug => "debug"
  | .info => "info"
  | .warning => "warning"
  | .error => "error"
  | .critical => "critical"

def severity : Level → Nat
  | .debug => 10
  | .info => 20
  | .warning => 30
  | .error => 40
  | .critical => 50

end Level

/-- How an event is told: at a level, or as an error with the failure at hand. -/
inductive Way where
  | plain (level : Level)
  | failure
  deriving DecidableEq, Repr

namespace Way

def level : Way → Level
  | .plain level => level
  | .failure => .error

def names : List (String × Way) :=
  [ ("debug", .plain .debug), ("info", .plain .info), ("warning", .plain .warning),
    ("warn", .plain .warning), ("error", .plain .error), ("critical", .plain .critical),
    ("fatal", .plain .critical), ("exception", .failure) ]

def ofName? (name : String) : Option Way :=
  (names.find? fun entry => entry.1 == name).map Prod.snd

end Way

/-- Log lines are objects for machines or text for people. -/
inductive Format where
  | json
  | console
  deriving DecidableEq, Repr

def Format.name : Format → String
  | .json => "json"
  | .console => "console"

/-- Only the name of the format for machines is known by itself. -/
def Format.ofName (name : String) : Format :=
  if name = Format.json.name then .json else .console

structure Event where
  level : Level
  name : String
  fields : List (String × Value)
  deriving DecidableEq

end WalCheckpoint.Log
