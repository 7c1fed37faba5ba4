import WalCheckpoint.Log.Sink
import WalCheckpoint.Proofs.Json.Image

namespace WalCheckpoint.Log

/-! Which events can be told. Where no field has a name with a meaning of its own, only a number
with too many digits keeps an event out of the log, in either format. -/

/-- Names of fields that are not only told. -/
def reservedNames : List String :=
  ["event", "level", "logger", "timestamp", Record.argumentsName, Record.recordName,
    Record.stackName, Record.exceptionName, Record.otherLoggerName] ++ Record.requestNames

/-- Values that a field tells as they stand. -/
def isVerbatim : Value → Bool
  | .bytes _ => false
  | value => value.hasNames

theorem hasNames_of_isVerbatim {value : Value} (verbatim : isVerbatim value = true) :
    value.hasNames = true := by
  cases value with
  | bytes bs => rfl
  | _ => exact verbatim

theorem decoded_of_isVerbatim {value : Value} (verbatim : isVerbatim value = true) :
    Record.decoded value = value := by
  cases value with
  | bytes bs => contradiction
  | _ => rfl

def Ordinary (fields : List (String × Value)) : Prop :=
  ∀ field ∈ fields, field.1 ∉ reservedNames ∧ isVerbatim field.2 = true

theorem Ordinary.nil : Ordinary [] := nofun

theorem Ordinary.cons {name : String} {value : Value} {rest : List (String × Value)}
    (free : name ∉ reservedNames) (verbatim : isVerbatim value = true) (ordinary : Ordinary rest) :
    Ordinary ((name, value) :: rest) :=
  List.forall_mem_cons.mpr ⟨⟨free, verbatim⟩, ordinary⟩

theorem Ordinary.hasNames {fields : List (String × Value)} (ordinary : Ordinary fields) :
    (fields.all fun field => field.2.hasNames) = true :=
  List.all_eq_true.mpr fun field member => hasNames_of_isVerbatim (ordinary field member).2

/-- Fields that can be told with any event. -/
structure Plain (fields : List (String × Value)) : Prop where
  ordinary : Ordinary fields
  tellable : (fields.all fun field => field.2.isTellable) = true

def Event.isTellable (event : Event) : Bool :=
  event.fields.all fun field => field.2.isTellable

namespace Plain

variable {fields rest : List (String × Value)} {name : String} {value : Value}

theorem nil : Plain [] := ⟨.nil, rfl⟩

theorem cons (free : name ∉ reservedNames) (verbatim : isVerbatim value = true)
    (tellable : value.isTellable = true) (plain : Plain rest) : Plain ((name, value) :: rest) := by
  refine ⟨plain.ordinary.cons free verbatim, ?_⟩
  rw [List.all_cons, tellable, plain.tellable]
  rfl

theorem text (free : name ∉ reservedNames) (s : String) (plain : Plain rest) :
    Plain ((name, .string s) :: rest) :=
  plain.cons free rfl rfl

theorem append (plain : Plain fields) (plain' : Plain rest) : Plain (fields ++ rest) := by
  refine ⟨List.forall_mem_append.mpr ⟨plain.ordinary, plain'.ordinary⟩, ?_⟩
  rw [List.all_append, plain.tellable, plain'.tellable]
  rfl

end Plain

namespace Record

/-- No field has one of the names. -/
def Lacks (r : Record) (names : List String) : Prop :=
  ∀ field ∈ r.fields, field.1 ∉ names

/-- Of several fields with a name the first one counts, so that there may be one at most. -/
def HasOnce (r : Record) (name : String) : Prop :=
  ∀ field ∈ r.fields, field.1 = name → r.field? name = some field.2

variable {r : Record} {names : List String}

theorem decodeFields_eq (verbatim : ∀ field ∈ r.fields, decoded field.2 = field.2) :
    r.decodeFields = r := by
  have same : r.fields.map (fun field => (field.1, decoded field.2)) = r.fields.map id :=
    List.map_congr_left fun field member => Prod.ext rfl (verbatim field member)
  rw [decodeFields, same, List.map_id]

theorem lacks_of_ordinary (ordinary : Ordinary r.fields) : r.Lacks reservedNames :=
  fun field member => (ordinary field member).1

namespace Lacks

theorem mono (lacks : r.Lacks names) {fewer : List String} (within : fewer ⊆ names) :
    r.Lacks fewer :=
  fun field member named => lacks field member (within named)

theorem field? (lacks : r.Lacks names) {name : String} (member : name ∈ names) :
    r.field? name = none := by
  rw [Record.field?, Option.map_eq_none_iff, List.find?_eq_none]
  intro field held same
  exact lacks field held (eq_of_beq same ▸ member)

theorem without (lacks : r.Lacks names) : r.without names = r := by
  rw [Record.without, List.filter_eq_self.mpr]
  intro field member
  simpa using lacks field member

theorem hasOnce (lacks : r.Lacks names) {name : String} (member : name ∈ names) :
    r.HasOnce name := by
  rintro field held rfl
  exact absurd member (lacks field held)

theorem prepare (lacks : r.Lacks (argumentsName :: requestNames))
    (verbatim : ∀ field ∈ r.fields, decoded field.2 = field.2) :
    r.prepare =
      if (r.field? recordName).any (· != .null) then .error .foreignRecord else .ok r := by
  have filled : r.fillEvent = .ok r := by
    rw [fillEvent, lacks.field? List.mem_cons_self]
  have unrequested : r.without requestNames = r :=
    (lacks.mono (List.subset_cons_self ..)).without
  rw [Record.prepare, filled]
  split
  · rfl
  · exact congrArg Except.ok (unrequested.symm ▸ decodeFields_eq verbatim)

end Lacks

theorem prepare_of_ordinary (ordinary : Ordinary r.fields) : r.prepare = .ok r := by
  have lacks := lacks_of_ordinary ordinary
  rw [(lacks.mono (by decide)).prepare fun field member =>
    decoded_of_isVerbatim (ordinary field member).2, lacks.field? (by decide)]
  rfl

theorem text?_isSome (v : Value) : v.text?.isSome = v.isTellable := by
  cases v with
  | string s => rfl
  | broken text => rfl
  | _ => exact Value.display?_isSome _

theorem fieldText?_isSome (v : Value) : (fieldText? v).isSome = v.isTellable := by
  cases v with
  | string s =>
      rw [fieldText?]
      split <;> rfl
  | _ => exact Value.display?_isSome _

theorem consoleFields_eq (fields : List (String × Value)) :
    ∃ texts, consoleFields fields =
      if fields.all fun field => field.2.isTellable then .ok texts
      else .error (.unwritable .numeral) := by
  induction fields with
  | nil => exact ⟨[], rfl⟩
  | cons field rest induction =>
      obtain ⟨texts, told⟩ := induction
      rw [consoleFields, List.all_cons, ← fieldText?_isSome, told]
      cases fieldText? field.2 with
      | none => exact ⟨[], rfl⟩
      | some text =>
          refine ⟨s!"{field.1}={text}" :: texts, ?_⟩
          cases rest.all fun field => field.2.isTellable <;> rfl

/-- The name of another logger is shown apart, and it is a field like the others. -/
theorem isTellable_parts (lacks : r.Lacks [stackName, exceptionName])
    (once : r.HasOnce otherLoggerName) :
    ((r.field? otherLoggerName).all Value.isTellable &&
        (r.without [stackName, exceptionName, otherLoggerName]).fields.all
          fun field => field.2.isTellable) =
      r.fields.all fun field => field.2.isTellable := by
  rw [Bool.eq_iff_iff, Bool.and_eq_true, List.all_eq_true, List.all_eq_true]
  constructor
  · rintro ⟨other, rest⟩ field member
    by_cases named : field.1 = otherLoggerName
    · rwa [once field member named] at other
    · apply rest field
      refine List.mem_filter.mpr ⟨member, ?_⟩
      have unstacked := lacks field member
      simp only [List.mem_cons, not_or] at unstacked
      simp [unstacked, named]
  · intro all
    constructor
    · rw [Option.all_eq_true]
      intro value held
      obtain ⟨field, found, rfl⟩ := Option.map_eq_some_iff.mp held
      exact all field (List.mem_of_find?_eq_some found)
    · exact fun field member => all field (List.mem_filter.mp member).1

theorem bracket_line (level next : String) (parts : List String) :
    ∃ rest, " ".intercalate (s!"[{level}]" :: next :: parts) = String.ofList ('[' :: rest) := by
  have begins : (" ".intercalate (s!"[{level}]" :: next :: parts)).toList =
      '[' :: (level.toList ++ ']' :: ' ' :: (" ".intercalate (next :: parts)).toList) := by
    simp only [String.intercalate_cons_cons, String.toList_append, List.append_assoc]
    rfl
  exact ⟨_, by rw [← begins, String.ofList_toList]⟩

theorem console_eq (lacks : r.Lacks [stackName, exceptionName])
    (once : r.HasOnce otherLoggerName) :
    ∃ rest, r.console =
      if r.fields.all fun field => field.2.isTellable then .ok (String.ofList ('[' :: rest))
      else .error (.unwritable .numeral) := by
  have stack : r.field? stackName = none := lacks.field? (by decide)
  have failure : r.field? exceptionName = none := lacks.field? (by decide)
  obtain ⟨texts, told⟩ :=
    consoleFields_eq (r.without [stackName, exceptionName, otherLoggerName]).fields
  rw [console, belowText, belowText, stack, failure, told, ← isTellable_parts lacks once]
  cases r.field? otherLoggerName with
  | none =>
      obtain ⟨rest, begins⟩ := bracket_line r.level.name r.event (s!"[{r.logger}]" :: texts)
      refine ⟨rest, ?_⟩
      rw [← begins]
      cases (r.without [stackName, exceptionName, otherLoggerName]).fields.all
        fun field => field.2.isTellable <;> rfl
  | some other =>
      rw [Option.all_some, ← text?_isSome]
      dsimp only
      cases other.text? with
      | none => exact ⟨[], rfl⟩
      | some shown =>
          obtain ⟨rest, begins⟩ :=
            bracket_line r.level.name r.event (s!"[{r.logger}]" :: s!"[{shown}]" :: texts)
          refine ⟨rest, ?_⟩
          rw [← begins]
          cases (r.without [stackName, exceptionName, otherLoggerName]).fields.all
            fun field => field.2.isTellable <;> rfl

theorem image?_toMapping (named : (r.fields.all fun field => field.2.hasNames) = true) :
    ∃ image, Json.image? (.map r.toMapping) =
      if r.fields.all fun field => field.2.isTellable then .ok image else .error .numeral := by
  have whole : (Value.map r.toMapping).hasNames = true := by
    rw [Record.toMapping, Mapping.hasNames_ofFields, List.all_append, named]
    rfl
  have tellable : (Value.map r.toMapping).isTellable =
      r.fields.all fun field => field.2.isTellable := by
    rw [Record.toMapping, Mapping.isTellable_ofFields, List.all_append]
    exact Bool.true_and _
  rw [← tellable]
  exact Json.image?_eq _ whole

end Record

theorem Line.ofRecord_eq {r : Record} (lacks : r.Lacks [Record.stackName, Record.exceptionName])
    (once : r.HasOnce Record.otherLoggerName)
    (named : (r.fields.all fun field => field.2.hasNames) = true) (format : Format) :
    ∃ line, ofRecord format r =
      if r.fields.all fun field => field.2.isTellable then .ok line
      else .error (.unwritable .numeral) := by
  cases format with
  | json =>
      obtain ⟨image, written⟩ := Record.image?_toMapping named
      refine ⟨.object image, ?_⟩
      rw [ofRecord, written]
      cases r.fields.all fun field => field.2.isTellable <;> rfl
  | console =>
      obtain ⟨rest, written⟩ := Record.console_eq lacks once
      refine ⟨.text (String.ofList ('[' :: rest)), ?_⟩
      rw [ofRecord, written]
      cases r.fields.all fun field => field.2.isTellable <;> rfl

theorem Line.ofRecord_of_ordinary {r : Record} (ordinary : Ordinary r.fields) (format : Format) :
    ∃ line, ofRecord format r =
      if r.fields.all fun field => field.2.isTellable then .ok line
      else .error (.unwritable .numeral) := by
  have lacks := Record.lacks_of_ordinary ordinary
  exact ofRecord_eq (lacks.mono (by decide)) (lacks.hasOnce (by decide)) ordinary.hasNames format

/-- What goes into the record of an event: bound fields that it has none of itself, and its own. -/
def Event.merged (event : Event) (bound : List (String × Value)) : List (String × Value) :=
  (bound.filter fun field => !(event.fields.any fun own => own.1 == field.1)) ++ event.fields

section Merged

variable {event : Event} {bound : List (String × Value)}

theorem Event.mem_of_mem_merged {field : String × Value} (member : field ∈ event.merged bound) :
    field ∈ bound ∨ field ∈ event.fields :=
  (List.mem_append.mp member).imp_left fun free => (List.mem_filter.mp free).1

theorem Record.fields_ofEvent (logger : String)
    (free : ∀ field ∈ event.merged bound,
      field.1 ∉ ["event", "level", "logger", "timestamp"]) :
    (ofEvent logger event bound).fields = event.merged bound := by
  refine List.filter_eq_self.mpr fun field member => ?_
  simpa using free field member

end Merged

namespace Sink

theorem ordinary_ofEvent {sink : Sink} (plain : Plain sink.bound) (logger : String) {event : Event}
    (ordinary : Ordinary event.fields) :
    Ordinary (Record.ofEvent logger event sink.bound).fields ∧
      ((Record.ofEvent logger event sink.bound).fields.all fun field => field.2.isTellable) =
        event.fields.all fun field => field.2.isTellable := by
  have whole : Ordinary (event.merged sink.bound) := by
    intro field member
    rcases Event.mem_of_mem_merged member with free | own
    · exact plain.ordinary field free
    · exact ordinary field own
  have fields := Record.fields_ofEvent logger fun field member named =>
    (whole field member).1 (List.mem_append_left _ (List.mem_append_left _ named))
  have tellable : ((sink.bound.filter fun field =>
      !(event.fields.any fun own => own.1 == field.1)).all fun field => field.2.isTellable) = true :=
    List.all_eq_true.mpr fun field member =>
      List.all_eq_true.mp plain.tellable field (List.mem_filter.mp member).1
  rw [fields, Event.merged, List.all_append, tellable]
  exact ⟨whole, Bool.true_and _⟩

theorem write_eq {sink : Sink} (plain : Plain sink.bound) (logger : String) {event : Event}
    (ordinary : Ordinary event.fields) :
    ∃ line, sink.write logger event =
      if event.isTellable then .ok line else .error (.unwritable .numeral) := by
  obtain ⟨whole, tellable⟩ := ordinary_ofEvent plain logger ordinary
  rw [write, Event.isTellable, ← tellable]
  generalize Record.ofEvent logger event sink.bound = r at whole ⊢
  cases sink.setup with
  | none =>
      obtain ⟨line, written⟩ := Line.ofRecord_of_ordinary whole .console
      refine ⟨none, ?_⟩
      dsimp only
      rw [((Record.lacks_of_ordinary whole).mono (by decide)).without, written]
      cases r.fields.all fun field => field.2.isTellable <;> rfl
  | some setup =>
      obtain ⟨line, written⟩ := Line.ofRecord_of_ordinary whole setup.format
      refine ⟨if setup.threshold ≤ event.level.severity then some line else none, ?_⟩
      dsimp only
      rw [Record.prepare_of_ordinary whole]
      change (Line.ofRecord setup.format r >>= fun line =>
        pure (if setup.threshold ≤ event.level.severity then some line else none)) = _
      rw [written]
      cases r.fields.all fun field => field.2.isTellable <;> rfl

end Sink

end WalCheckpoint.Log
