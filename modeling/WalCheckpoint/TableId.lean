namespace WalCheckpoint

/-! The table a change record belongs to. Either name may be unknown. -/

structure TableId where
  schema : Option String
  table : Option String
  deriving DecidableEq, Repr

namespace TableId

def splitLastDot? (cs : List Char) : Option (List Char × List Char) :=
  match cs.reverse.dropWhile (· ≠ '.') with
  | [] => none
  | _ :: front => some (front.reverse, (cs.reverse.takeWhile (· ≠ '.')).reverse)

def nonEmpty? (cs : List Char) : Option String :=
  if cs.isEmpty then none else some (String.ofList cs)

inductive ReadError where
  | empty
  deriving DecidableEq, Repr

def ReadError.message : ReadError → String
  | .empty => "table identifier must be non-empty"

/-- Reads `schema.table`; a name without a dot is a table of unknown schema. -/
def read (text : String) : Except ReadError TableId :=
  if text.isEmpty then .error .empty
  else
    match splitLastDot? text.toList with
    | none => .ok ⟨none, some text⟩
    | some (schema, table) => .ok ⟨nonEmpty? schema, nonEmpty? table⟩

def unknownName : String := "None"

def write (t : TableId) : String :=
  let table := t.table.getD unknownName
  match t.schema with
  | none => table
  | some schema => if schema.isEmpty then table else schema ++ "." ++ table

end TableId

end WalCheckpoint
