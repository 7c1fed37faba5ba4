import WalCheckpoint.Binary64.Shortest
import WalCheckpoint.Text.Bytes
import WalCheckpoint.Text.Numeral
import WalCheckpoint.Text.Quoted
import WalCheckpoint.Value

namespace WalCheckpoint

open Time

/-! The text of a value in messages. It fails only on a number with too many digits. -/

namespace Value

def floatSpelling : Binary64.Spelling := ⟨"nan", "inf"⟩

def displayBool (b : Bool) : String :=
  if b then "True" else "False"

def displayDate (d : Date) : String :=
  s!"datetime.date({d.year}, {d.month}, {d.day})"

def displaySpan (micros : Int) : String :=
  let days := micros.fdiv microsPerDay
  let rest := (micros.fmod microsPerDay).toNat
  let parts :=
    (if days = 0 then [] else [s!"days={days}"]) ++
      (if rest / 1000000 = 0 then [] else [s!"seconds={rest / 1000000}"]) ++
      (if rest % 1000000 = 0 then [] else [s!"microseconds={rest % 1000000}"])
  let inner := if parts.isEmpty then "0" else ", ".intercalate parts
  s!"datetime.timedelta({inner})"

def displayOffset (o : UtcOffset) : String :=
  if o.micros = 0 then "datetime.timezone.utc"
  else s!"datetime.timezone({displaySpan o.micros})"

/-- Seconds and microseconds at the end are left out while they are zero. -/
def displayDateTime (t : DateTime) : String :=
  let c := t.clock
  let small :=
    if c.micro ≠ 0 then [c.second, c.micro]
    else if c.second ≠ 0 then [c.second]
    else []
  let parts :=
    ([t.date.year, t.date.month, t.date.day, c.hour, c.minute] ++ small).map toString
  let zone :=
    match t.offset with
    | some offset => [s!"tzinfo={displayOffset offset}"]
    | none => []
  let inner := ", ".intercalate (parts ++ zone)
  s!"datetime.datetime({inner})"

def displaySet (parts : List String) : String :=
  if parts.isEmpty then "set()" else "\x7b" ++ ", ".intercalate parts ++ "\x7d"

/-- A collection within itself is not shown again. -/
def displayEnclosing (isList : Bool) : String :=
  if isList then "[...]" else "\x7b...\x7d"

mutual
def display? : Value → Option String
  | .null => some "None"
  | .bool b => some (displayBool b)
  | .int n => Text.Numeral.write? n
  | .float x => some (x.write floatSpelling)
  | .string s => some (Text.Quoted.encode s)
  | .broken text => some text.quoted
  | .bytes bs => some (Text.Bytes.quoted bs)
  | .list items =>
      (displayItems? items).map fun parts => "[" ++ ", ".intercalate parts ++ "]"
  | .pair first second => do
      let first ← display? first
      let second ← display? second
      return "(" ++ first ++ ", " ++ second ++ ")"
  | .set members => (displayItems? members).map displaySet
  | .map entries =>
      (displayEntries? entries).map fun parts => "\x7b" ++ ", ".intercalate parts ++ "\x7d"
  | .date d => some (displayDate d)
  | .dateTime t => some (displayDateTime t)
  | .enclosing isList => some (displayEnclosing isList)
termination_by structural value => value

def displayItems? : List Value → Option (List String)
  | [] => some []
  | item :: rest => do
      let part ← display? item
      let parts ← displayItems? rest
      return part :: parts
termination_by structural items => items

def displayEntries? : List (Value × Value) → Option (List String)
  | [] => some []
  | (key, value) :: rest => do
      let keyPart ← display? key
      let valuePart ← display? value
      let parts ← displayEntries? rest
      return (keyPart ++ ": " ++ valuePart) :: parts
termination_by structural entries => entries
end

end Value

end WalCheckpoint
