import WalCheckpoint.Document

namespace WalCheckpoint.Yaml

/-! What reads documents. -/

/-- What goes wrong with a text, with a document, or with a value that it is said to have. -/
inductive Fault where
  | undecodable
  | malformed
  | characterOutOfRange
  | characterTooLarge
  | badNumber
  | emptyNumber
  | numberTooLarge
  | badDate
  | noTimestamp
  | noSwitchWord
  | notText
  | tooDeep
  deriving DecidableEq, Repr

/-- Faults of texts, documents, numbers and dates are foreseen; a value of a marked kind may have
others. -/
def Fault.isForeseen : Fault → Bool
  | .undecodable | .malformed | .characterOutOfRange | .badNumber | .badDate => true
  | .characterTooLarge | .emptyNumber | .numberTooLarge | .noTimestamp | .noSwitchWord
  | .notText | .tooDeep => false

/-- Reads the document that a file holds, or finds a fault. What a mapping of it has for keys has no
parts. -/
structure Reader where
  read : ByteArray → Except Fault Document
  hasScalarKeys : ∀ bytes document entries, read bytes = .ok document →
    document.value = .map entries → Keyed.HasScalarKeys entries

end WalCheckpoint.Yaml
