namespace WalCheckpoint.Text

/-! The order of rows of texts: the first texts that differ decide. -/

def before : List String → List String → Bool
  | [], _ => true
  | _ :: _, [] => false
  | a :: as, b :: bs => if a = b then before as bs else a ≤ b

end WalCheckpoint.Text
