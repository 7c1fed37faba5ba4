import WalCheckpoint.Text.Order
import WalCheckpoint.Tracker

namespace WalCheckpoint.Envelope

/-! The published shape of the envelope of change records, and the values that break it. -/

inductive Clause where
  | text (minLength : Nat)
  | integer (minimum maximum : Int)
  | boolean
  | booleanOrNull
  deriving DecidableEq, Repr

structure Schema where
  title : String
  properties : List (String × Clause)
  required : List String
  /-- Properties that may stand only beside others. -/
  dependencies : List (String × List String)
  deriving DecidableEq, Repr

inductive Keyword where
  | type
  | minLength
  | minimum
  | maximum
  | required
  | dependencies
  | additionalProperties
  deriving DecidableEq, Repr

def Keyword.name : Keyword → String
  | .type => "type"
  | .minLength => "minLength"
  | .minimum => "minimum"
  | .maximum => "maximum"
  | .required => "required"
  | .dependencies => "dependencies"
  | .additionalProperties => "additionalProperties"

structure Violation where
  path : List String
  keyword : Keyword
  deriving DecidableEq, Repr

/-- A number without a fractional part is an integer, a truth value is not. -/
def isInteger : Value → Bool
  | .int _ => true
  | .float x => x.integral?.isSome
  | _ => false

def compareInt? : Value → Int → Option Ordering
  | .int n, bound => some (compare n bound)
  | .float x, bound => x.compareInt? bound
  | _, _ => none

namespace Clause

def brokenKeywords (value : Value) : Clause → List Keyword
  | .text minLength =>
      match value with
      | .string s => if s.length < minLength then [.minLength] else []
      | _ => [.type]
  | .integer minimum maximum =>
      (if isInteger value then [] else [.type]) ++
        (if compareInt? value minimum = some .lt then [.minimum] else []) ++
        (if compareInt? value maximum = some .gt then [.maximum] else [])
  | .boolean =>
      match value with
      | .bool _ => []
      | _ => [.type]
  | .booleanOrNull =>
      match value with
      | .bool _ => []
      | .null => []
      | _ => [.type]

end Clause

namespace Schema

def propertyViolations (m : Mapping) (property : String × Clause) : List Violation :=
  match m.field? property.1 with
  | some value => (property.2.brokenKeywords value).map fun keyword => ⟨[property.1], keyword⟩
  | none => []

def requiredViolations (m : Mapping) (name : String) : List Violation :=
  if m.hasField name then [] else [⟨[], .required⟩]

def dependencyViolations (m : Mapping) (dependency : String × List String) :
    List Violation :=
  if m.hasField dependency.1 then
    (dependency.2.filter fun name => !m.hasField name).map fun _ => ⟨[], .dependencies⟩
  else []

def isKnown (schema : Schema) : Value → Bool
  | .string name => schema.properties.any fun property => property.1 == name
  | _ => false

def additionalViolations (schema : Schema) (m : Mapping) : List Violation :=
  if m.all fun entry => schema.isKnown entry.1 then [] else [⟨[], .additionalProperties⟩]

/-- All violations, one for each missing name and one for all unknown names together. -/
def violations (schema : Schema) : Value → List Violation
  | .map m =>
      schema.properties.flatMap (propertyViolations m) ++
        schema.required.flatMap (requiredViolations m) ++
        schema.dependencies.flatMap (dependencyViolations m) ++
        schema.additionalViolations m
  | _ => [⟨[], .type⟩]

def Accepts (schema : Schema) (value : Value) : Prop :=
  schema.violations value = []

instance (schema : Schema) (value : Value) : Decidable (schema.Accepts value) :=
  inferInstanceAs (Decidable (schema.violations value = []))

end Schema

def Violation.before (left right : Violation) : Bool :=
  if left.path = right.path then left.keyword.name ≤ right.keyword.name
  else Text.before left.path right.path

def int64 : Clause := .integer (-0x8000000000000000) 0x7FFFFFFFFFFFFFFF

def schema : Schema where
  title := "pgcdc.postgresql.Source"
  properties :=
    [ (Tracker.serverKey, .text 1),
      (Tracker.databaseKey, .text 1),
      (Offset.commitMicrosKey, int64),
      (Offset.txIdKey, int64),
      (Offset.lsnKey, int64),
      (Tracker.schemaKey, .text 1),
      (Tracker.tableKey, .text 1),
      (Offset.snapshotKey, .boolean),
      (Offset.lastRecordKey, .booleanOrNull),
      (Offset.xminKey, int64) ]
  required := [Tracker.serverKey, Tracker.databaseKey, Tracker.schemaKey, Tracker.tableKey]
  dependencies := [(Offset.lastRecordKey, [Offset.snapshotKey])]

/-! The schema as it is published. -/

def names (list : List String) : Value :=
  .list (list.map .string)

def Clause.toFields : Clause → List (String × Value)
  | .text minLength => [("type", .string "string"), ("minLength", .int minLength)]
  | .integer minimum maximum =>
      [("type", .string "integer"), ("minimum", .int minimum), ("maximum", .int maximum)]
  | .boolean => [("type", .string "boolean")]
  | .booleanOrNull => [("type", names ["boolean", "null"])]

def Clause.toValue (clause : Clause) : Value :=
  .map (Mapping.ofFields clause.toFields)

def Schema.toValue (schema : Schema) : Value :=
  .map <| Mapping.ofFields
    [ ("$schema", .string "http://json-schema.org/draft-07/schema#"),
      ("title", .string schema.title),
      ("type", .string "object"),
      ("properties", .map (Mapping.ofFields (schema.properties.map fun property =>
        (property.1, property.2.toValue)))),
      ("required", names schema.required),
      ("dependencies", .map (Mapping.ofFields (schema.dependencies.map fun dependency =>
        (dependency.1, names dependency.2)))),
      ("additionalProperties", .bool false) ]

end WalCheckpoint.Envelope
