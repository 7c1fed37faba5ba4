import WalCheckpoint.Proofs.Json.Characters
import WalCheckpoint.Proofs.Log.Telling
import WalCheckpoint.Proofs.Value.Overlay

namespace WalCheckpoint

/-! Lines that tell simple fields. A line for machines is read back as its record, and a line for
people is not taken for one. -/

def Value.isSimple : Value → Bool
  | .null | .bool _ | .int _ | .string _ => true
  | _ => false

theorem Value.hasNames_of_isSimple {v : Value} (simple : v.isSimple = true) :
    v.hasNames = true := by
  cases v with
  | list items => contradiction
  | pair first second => contradiction
  | map entries => contradiction
  | _ => rfl

theorem Value.decoded_of_isSimple {v : Value} (simple : v.isSimple = true) :
    Log.Record.decoded v = v := by
  cases v with
  | bytes bs => contradiction
  | _ => rfl

theorem Json.plain_of_isSimple {v : Value} (simple : v.isSimple = true)
    (tellable : v.isTellable = true) : Json.Plain v := by
  cases v with
  | null => exact .null
  | bool b => exact .bool b
  | int n => exact .int tellable
  | string s => exact .string s
  | _ => contradiction

namespace Log

def meaningNames : List String :=
  ["event", "level", "logger", "timestamp", "exc_info", "stack_info", "stack", "exception",
    "positional_args"]

structure Simple (fields : List (String × Value)) : Prop where
  distinct : (fields.map Prod.fst).Nodup
  free : ∀ field ∈ fields, field.1 ∉ meaningNames
  values : ∀ field ∈ fields, field.2.isSimple = true

instance (fields : List (String × Value)) : Decidable (Simple fields) :=
  decidable_of_iff ((fields.map Prod.fst).Nodup ∧ (∀ field ∈ fields, field.1 ∉ meaningNames) ∧
      ∀ field ∈ fields, field.2.isSimple = true)
    ⟨fun ⟨distinct, free, values⟩ => ⟨distinct, free, values⟩,
      fun simple => ⟨simple.distinct, simple.free, simple.values⟩⟩

namespace Simple

variable {fields : List (String × Value)}

theorem nil : Simple [] :=
  ⟨.nil, nofun, nofun⟩

theorem hasNames (simple : Simple fields) :
    (fields.all fun field => field.2.hasNames) = true :=
  List.all_eq_true.mpr fun field member => Value.hasNames_of_isSimple (simple.values field member)

theorem lookup_of_mem (simple : Simple fields) {name : String} {value : Value}
    (member : (name, value) ∈ fields) : fields.lookup name = some value := by
  rw [← Mapping.field?_ofFields]
  apply (Mapping.distinct_ofFields simple.distinct).get?_of_mem
  exact List.mem_map_of_mem (f := fun field : String × Value => (Value.string field.1, field.2)) member

end Simple

/-! Bound fields and an event's own. -/

section Merged

variable {event : Event} {bound : List (String × Value)}

theorem lookup_unowned (own bound : List (String × Value)) (name : String) :
    (bound.filter fun field => !(own.any fun own => own.1 == field.1)).lookup name =
      if (own.lookup name).isSome then none else bound.lookup name := by
  have owned (field : String × Value) :
      (own.any fun own => own.1 == field.1) = (own.lookup field.1).isSome := by
    rw [Bool.eq_iff_iff, List.lookup_isSome_iff, List.any_eq_true]
    exact exists_congr fun own => and_congr_right fun _ => by rw [BEq.comm]
  induction bound with
  | nil => split <;> rfl
  | cons field rest induction =>
      obtain ⟨key, value⟩ := field
      rw [List.filter_cons, owned, lookup_field]
      by_cases same : name = key
      · subst same
        cases held : (own.lookup name).isSome with
        | true => simp [held, induction]
        | false => simp
      · cases (own.lookup key).isSome with
        | true => simp [same, induction]
        | false => simp [same, lookup_field, induction]

/-- A field that an event has itself counts before one that is bound. -/
def Event.fieldOver? (event : Event) (bound : List (String × Value)) (name : String) :
    Option Value :=
  (event.fields.lookup name).or (bound.lookup name)

theorem lookup_merged (event : Event) (bound : List (String × Value)) (name : String) :
    (event.merged bound).lookup name = event.fieldOver? bound name := by
  rw [Event.merged, List.lookup_append, lookup_unowned, Event.fieldOver?]
  cases event.fields.lookup name with
  | none => exact Option.or_none
  | some value => rfl

theorem simple_merged (own : Simple event.fields) (simple : Simple bound) :
    Simple (event.merged bound) where
  distinct := by
    rw [Event.merged, List.map_append, List.nodup_append]
    refine ⟨simple.distinct.sublist (List.filter_sublist.map _), own.distinct, ?_⟩
    rintro name free _ owned rfl
    obtain ⟨field, member, rfl⟩ := List.mem_map.mp free
    obtain ⟨field', member', same⟩ := List.mem_map.mp owned
    have unowned := (List.mem_filter.mp member).2
    rw [Bool.not_eq_true', List.any_eq_false] at unowned
    exact unowned field' member' (beq_iff_eq.mpr same)
  free field member :=
    (Event.mem_of_mem_merged member).elim (simple.free field) (own.free field)
  values field member :=
    (Event.mem_of_mem_merged member).elim (simple.values field) (own.values field)

end Merged

namespace Record

variable {r : Record}

theorem field?_eq_lookup (r : Record) (name : String) : r.field? name = r.fields.lookup name := by
  rw [field?]
  induction r.fields with
  | nil => rfl
  | cons field rest induction =>
      obtain ⟨key, value⟩ := field
      rw [List.find?_cons, lookup_field, ← induction]
      by_cases same : name = key
      · simp [same]
      · rw [if_neg same, beq_false_of_ne (Ne.symm same)]

/-- What a record says of an event that a logger tells while fields are bound. -/
structure Carries (r : Record) (teller : String) (told : Event) (bound : List (String × Value)) :
    Prop where
  logger : r.logger = if teller = "" then rootName else teller
  level : r.level = told.level
  event : r.event = told.name
  distinct : (r.fields.map Prod.fst).Nodup
  fields : ∀ name, r.field? name = told.fieldOver? bound name

section OfEvent

variable {event : Event} {bound : List (String × Value)} (logger : String)

theorem fields_ofEvent_of_simple (own : Simple event.fields) (simple : Simple bound) :
    (ofEvent logger event bound).fields = event.merged bound :=
  fields_ofEvent logger fun field member named =>
    (simple_merged own simple).free field member (List.mem_append_left _ named)

theorem simple_ofEvent (own : Simple event.fields) (simple : Simple bound) :
    Simple (ofEvent logger event bound).fields := by
  rw [fields_ofEvent_of_simple logger own simple]
  exact simple_merged own simple

theorem carries_ofEvent (own : Simple event.fields) (simple : Simple bound) :
    (ofEvent logger event bound).Carries logger event bound := by
  refine ⟨rfl, rfl, rfl, (simple_ofEvent logger own simple).distinct, fun name => ?_⟩
  rw [field?_eq_lookup, fields_ofEvent_of_simple logger own simple, lookup_merged]

end OfEvent

theorem lacks_of_simple (simple : Simple r.fields) : r.Lacks meaningNames :=
  simple.free

theorem hasOnce_of_simple (simple : Simple r.fields) (name : String) : r.HasOnce name := by
  rintro field member rfl
  rw [field?_eq_lookup]
  exact simple.lookup_of_mem member

/-- Only a number with too many digits cannot be told among simple fields. -/
theorem untellable_iff (simple : Simple r.fields) :
    (r.fields.all fun field => field.2.isTellable) = false ↔
      ∃ name n, r.field? name = some (.int n) ∧
        Nat.pow 10 Text.Numeral.digitLimit ≤ n.natAbs := by
  rw [List.all_eq_false]
  constructor
  · rintro ⟨⟨name, value⟩, member, untellable⟩
    have held : r.field? name = some value := by
      rw [field?_eq_lookup]
      exact simple.lookup_of_mem member
    have bare := simple.values _ member
    cases value with
    | int n => exact ⟨name, n, held, not_lt.mp (mt (Value.isTellable_int_iff n).mpr untellable)⟩
    | null => contradiction
    | bool b => contradiction
    | string s => contradiction
    | _ => exact absurd bare Bool.false_ne_true
  · rintro ⟨name, n, held, long⟩
    obtain ⟨field, found, same⟩ := Option.map_eq_some_iff.mp held
    refine ⟨field, List.mem_of_find?_eq_some found, ?_⟩
    rw [same, Value.isTellable_int_iff]
    exact not_lt.mpr long

theorem plain_toMapping (simple : Simple r.fields)
    (tellable : (r.fields.all fun field => field.2.isTellable) = true) :
    Json.Plain (.map r.toMapping) := by
  refine .map ?_ ?_
  · rw [List.map_append, List.nodup_append]
    have said : ["event", "level", "logger"].Nodup := by decide
    refine ⟨said, simple.distinct, ?_⟩
    rintro name said _ told rfl
    obtain ⟨field, member, rfl⟩ := List.mem_map.mp told
    apply simple.free field member
    exact (by decide : ["event", "level", "logger"] ⊆ meaningNames) said
  · refine List.forall_mem_append.mpr ⟨?_, fun field member => ?_⟩
    · simp only [List.forall_mem_cons]
      exact ⟨.string _, .string _, .string _, nofun⟩
    · exact Json.plain_of_isSimple (simple.values field member)
        (List.all_eq_true.mp tellable field member)

end Record

theorem Format.ofName_json : ofName "json" = .json :=
  if_pos rfl

theorem Format.ofName_of_ne {format : String} (other : format ≠ "json") : ofName format = .console :=
  if_neg other

/-- A line that tells a record in a format. Only one in the format for machines is an object, on
one line, and it is the record's. -/
structure Line.Renders (line : Line) (format : String) (r : Record) : Prop where
  written : ofRecord (Format.ofName format) r = .ok line
  isObject : (∃ entries, Json.read? line.toText = some (.map entries)) ↔ format = "json"
  entries : format = "json" → Json.read? line.toText = some (.map r.toMapping)
  printed : format = "json" → ∀ c ∈ line.toText.toList, 0x20 ≤ c.toNat ∧ c.toNat ≤ 0x7E

section Renders

variable {r : Record}

theorem renders_json (simple : Simple r.fields)
    (tellable : (r.fields.all fun field => field.2.isTellable) = true) :
    (Line.object (.map r.toMapping)).Renders "json" r := by
  have plain := Record.plain_toMapping simple tellable
  have read : Json.read? (Line.object (.map r.toMapping)).toText = some (.map r.toMapping) := by
    have blank : ∀ c ∈ ([] : List Char), Json.isSpace c = true := nofun
    have whole := Json.read?_write plain .line blank
    rwa [List.append_nil] at whole
  refine ⟨?_, ⟨fun _ => rfl, fun _ => ⟨_, read⟩⟩, fun _ => read, fun _ c member => ?_⟩
  · rw [Format.ofName_json, Line.ofRecord, plain.image]
    rfl
  · rw [Line.toText, String.toList_ofList] at member
    rcases plain.printed .line 0 c member with printed | ⟨-, other⟩
    · exact printed
    · exact absurd rfl other

theorem renders_console {format : String} (other : format ≠ "json") (simple : Simple r.fields)
    (tellable : (r.fields.all fun field => field.2.isTellable) = true) :
    ∃ line : Line, line.Renders format r := by
  have lacks : r.Lacks [Record.stackName, Record.exceptionName] :=
    (Record.lacks_of_simple simple).mono (by decide)
  obtain ⟨rest, written⟩ :=
    Record.console_eq lacks (Record.hasOnce_of_simple simple Record.otherLoggerName)
  rw [tellable, if_pos rfl] at written
  refine ⟨.text (String.ofList ('[' :: rest)), ?_, ⟨?_, fun same => absurd same other⟩,
    fun same => absurd same other, fun same => absurd same other⟩
  · rw [Format.ofName_of_ne other, Line.ofRecord, written]
    rfl
  · rintro ⟨entries, read⟩
    obtain ⟨items, same⟩ := Json.read?_bracket read
    contradiction

theorem exists_renders (format : String) (simple : Simple r.fields)
    (tellable : (r.fields.all fun field => field.2.isTellable) = true) :
    ∃ line : Line, line.Renders format r := by
  by_cases json : format = "json"
  · subst json
    exact ⟨_, renders_json simple tellable⟩
  · exact renders_console json simple tellable

end Renders

end Log

end WalCheckpoint
