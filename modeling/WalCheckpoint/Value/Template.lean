import WalCheckpoint.Binary64.Places
import WalCheckpoint.Value.Display

namespace WalCheckpoint.Value

/-! Texts with places for values. A place begins with a percent sign and ends with the letter for
what is shown there. Between the two may stand the name of a value in brackets, flags, a width and
a precision. Two percent signs stand for one. -/

def text? : Value → Option String
  | .string s => some s
  | .broken text => some text.escaped
  | value => value.display?

namespace Template

/-- Why a text cannot be filled in: a place that is none, a value of the wrong kind or one too few
or too many, a name that has no value, or a number that is too large. -/
inductive Fault where
  | badPlace
  | badValue
  | unknownName
  | tooLarge
  deriving DecidableEq, Repr

/-- The values at hand: those with names, and those that come next. -/
structure Values where
  named : Option Value
  next : List Value

namespace Values

/-- Bytes, lists and mappings are looked into by names, and all others are filled in whole, but for
a pair, whose values come one after the other. -/
def ofValue (value : Value) : Values :=
  match value with
  | .bytes _ | .list _ | .map _ => ⟨some value, [value]⟩
  | .pair first second => ⟨none, [first, second]⟩
  | value => ⟨none, [value]⟩

def take (values : Values) : Except Fault (Value × Values) :=
  match values.next with
  | value :: rest => .ok (value, { values with next := rest })
  | [] => .error .badValue

/-- From a name on, its value is the one that comes next. -/
def select (name : String) (values : Values) : Except Fault Values :=
  match values.named with
  | some (.map entries) =>
      match Mapping.field? entries name with
      | some value => .ok { values with next := [value] }
      | none => .error .unknownName
  | _ => .error .badValue

/-- A value without names has to be used up. -/
def areUsed (values : Values) : Bool :=
  values.named.isSome || values.next.isEmpty

end Values

structure Place where
  flags : List Char
  width : Nat
  precision : Option Nat
  deriving DecidableEq, Repr

namespace Place

def has (p : Place) (flag : Char) : Bool :=
  p.flags.contains flag

def spread (p : Place) (fill : Char) (head body : List Char) : List Char :=
  let size := head.length + body.length
  if p.has '-' then head ++ body ++ List.replicate (p.width - size) ' '
  else if fill = '0' then head ++ List.replicate (p.width - size) '0' ++ body
  else List.replicate (p.width - size) ' ' ++ head ++ body

def ofText (p : Place) (text : List Char) : List Char :=
  p.spread ' ' [] (match p.precision with
    | some precision => text.take precision
    | none => text)

/-- Numbers have their sign in front of zeros that fill the place. -/
def ofNumber (p : Place) (mark text : List Char) : List Char :=
  let (sign, digits) :=
    match text with
    | '-' :: digits => (['-'], digits)
    | digits => (if p.has '+' then ['+'] else if p.has ' ' then [' '] else [], digits)
  p.spread (if p.has '0' then '0' else ' ') (sign ++ mark) digits

end Place

/-- Characters outside of ASCII by their code points. -/
def escaped (text : String) : List Char :=
  text.toList.flatMap fun c =>
    if c.toNat < 128 then [c]
    else if c.toNat < 0x100 then '\\' :: 'x' :: Text.paddedHex 2 c.toNat
    else if c.toNat < 0x10000 then '\\' :: 'u' :: Text.paddedHex 4 c.toNat
    else '\\' :: 'U' :: Text.paddedHex 8 c.toNat

/-- A value as text; numbers with too many digits have none. -/
def shown (text : Option String) : Except Fault String :=
  text.elim (.error .badPlace) .ok

def wholeOf : Value → Except Fault Int
  | .bool b => .ok (if b then 1 else 0)
  | .int n => .ok n
  | .float x =>
      match x.ratio? with
      | some (n, d) => .ok (n.tdiv d)
      | none => .error (if x.isNaN then .badPlace else .tooLarge)
  | _ => .error .badValue

/-- A value that is a whole number as it stands. -/
def exactOf : Value → Except Fault Int
  | .float _ => .error .badValue
  | value => wholeOf value

def realOf : Value → Except Fault Binary64
  | .float x => .ok x
  | .bool b => .ok (Binary64.ofRatio false (if b then 1 else 0) 1)
  | .int n => (Binary64.ofInt? n).elim (.error .tooLarge) .ok
  | _ => .error .badValue

def characterOf : Value → Except Fault Char
  | .string s =>
      match s.toList with
      | [c] => .ok c
      | _ => .error .badValue
  | value => do
      let n ← exactOf value
      if 0 ≤ n ∧ n < 0x110000 then return Char.ofNat n.toNat else throw .tooLarge

def digitsOf (p : Place) (base : Nat) (n : Int) : List Char :=
  let digits := Text.padLeft '0' (p.precision.getD 0) (Nat.toDigits base n.natAbs)
  if n < 0 then '-' :: digits else digits

def inBase (p : Place) (base : Nat) (mark : List Char) (value : Value) :
    Except Fault (List Char) := do
  let n ← exactOf value
  return p.ofNumber (if p.has '#' then mark else []) (digitsOf p base n)

def inStyle (p : Place) (style : Binary64.Style) (value : Value) : Except Fault (List Char) := do
  let x ← realOf value
  return Binary64.writeStyled style (p.precision.getD 6) (p.has '#') x

def upper (text : List Char) : List Char :=
  text.map Char.toUpper

def fillPlace (p : Place) (letter : Char) (value : Value) : Except Fault (List Char) := do
  match letter with
  | 's' => return p.ofText (← shown value.text?).toList
  | 'r' => return p.ofText (← shown value.display?).toList
  | 'a' => return p.ofText (escaped (← shown value.display?))
  | 'd' | 'i' | 'u' =>
      let n ← wholeOf value
      let _ ← shown (Text.Numeral.write? n)
      return p.ofNumber [] (digitsOf p 10 n)
  | 'o' => inBase p 8 ['0', 'o'] value
  | 'x' => inBase p 16 ['0', 'x'] value
  | 'X' => return upper (← inBase p 16 ['0', 'x'] value)
  | 'e' => return p.ofNumber [] (← inStyle p .scientific value)
  | 'E' => return p.ofNumber [] (upper (← inStyle p .scientific value))
  | 'f' => return p.ofNumber [] (← inStyle p .fixed value)
  | 'F' => return p.ofNumber [] (upper (← inStyle p .fixed value))
  | 'g' => return p.ofNumber [] (← inStyle p .general value)
  | 'G' => return p.ofNumber [] (upper (← inStyle p .general value))
  | 'c' => return p.spread ' ' [] [← characterOf value]
  | _ => throw .badPlace

/-- Splits behind the bracket that closes; brackets within a name come in pairs. -/
def splitName (depth : Nat) : List Char → Option (List Char × List Char)
  | [] => none
  | ')' :: rest =>
      match depth with
      | 0 => some ([], rest)
      | depth + 1 => (splitName depth rest).map fun split => (')' :: split.1, split.2)
  | '(' :: rest => (splitName (depth + 1) rest).map fun split => ('(' :: split.1, split.2)
  | c :: rest => (splitName depth rest).map fun split => (c :: split.1, split.2)

def readName (values : Values) : List Char → Except Fault (Values × List Char)
  | '(' :: rest =>
      if values.named.isNone then .error .badValue
      else
        match splitName 0 rest with
        | some (name, rest) => (values.select (String.ofList name)).map fun values => (values, rest)
        | none => .error .badPlace
  | cs => .ok (values, cs)

/-! The largest width and the largest precision. -/

def widest : Nat := 0x7fffffffffffffff

def finest : Nat := 0x7fffffff

def readNumber (limit : Nat) (values : Values) :
    List Char → Except Fault (Option Int × Values × List Char)
  | '*' :: rest => do
      let (value, values) ← values.take
      let n ← exactOf value
      if n < -limit - 1 ∨ limit < n then throw .tooLarge
      return (some n, values, rest)
  | cs => do
      let digits := cs.takeWhile Char.isDigit
      let n := Text.Numeral.ofDigits 10 (digits.filterMap Text.Numeral.decimalDigit?)
      if limit < n then throw .badPlace
      return (if digits.isEmpty then none else some n, values, cs.dropWhile Char.isDigit)

def readPrecision (values : Values) : List Char → Except Fault (Option Nat × Values × List Char)
  | '.' :: rest => do
      let (number, values, rest) ← readNumber finest values rest
      return (some (number.getD 0).toNat, values, rest)
  | cs => .ok (none, values, cs)

def isFlag (c : Char) : Bool :=
  ['-', '+', ' ', '#', '0'].contains c

/-- Lengths of numbers are read and change nothing. -/
def dropLength : List Char → List Char
  | 'h' :: rest => rest
  | 'l' :: rest => rest
  | 'L' :: rest => rest
  | cs => cs

/-- A negative width is one to the left. -/
def placeOf (flags : List Char) (width : Option Int) (precision : Option Nat) : Place :=
  let width := width.getD 0
  ⟨if width < 0 then '-' :: flags else flags, width.natAbs, precision⟩

def readPlace (values : Values) (cs : List Char) :
    Except Fault (List Char × Values × List Char) := do
  let (values, cs) ← readName values cs
  let flags := cs.takeWhile isFlag
  let (width, values, cs) ← readNumber widest values (cs.dropWhile isFlag)
  let (precision, values, cs) ← readPrecision values cs
  match dropLength cs with
  | [] => throw .badPlace
  | letter :: rest =>
      let (value, values) ← values.take
      return (← fillPlace (placeOf flags width precision) letter value, values, rest)

/-- Every place uses up a character, so the length of a text bounds the number of steps. -/
def fillWithin (fuel : Nat) (values : Values) (cs : List Char) :
    Except Fault (List Char × Values) :=
  match fuel, cs with
  | 0, _ => .ok ([], values)
  | _, [] => .ok ([], values)
  | fuel + 1, '%' :: '%' :: rest => do
      let (more, values) ← fillWithin fuel values rest
      return ('%' :: more, values)
  | fuel + 1, '%' :: rest => do
      let (text, values, rest) ← readPlace values rest
      let (more, values) ← fillWithin fuel values rest
      return (text ++ more, values)
  | fuel + 1, c :: rest => do
      let (more, values) ← fillWithin fuel values rest
      return (c :: more, values)

def fill (text : String) (value : Value) : Except Fault String := do
  let (filled, values) ← fillWithin text.length (Values.ofValue value) text.toList
  if values.areUsed then return String.ofList filled else throw .badValue

end Template

end WalCheckpoint.Value
