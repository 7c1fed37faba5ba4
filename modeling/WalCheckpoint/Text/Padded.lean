namespace WalCheckpoint.Text

/-! Text brought to a least width. -/

def padLeft (fill : Char) (width : Nat) (cs : List Char) : List Char :=
  List.replicate (width - cs.length) fill ++ cs

@[simp] theorem length_padLeft (fill : Char) (width : Nat) (cs : List Char) :
    (padLeft fill width cs).length = max width cs.length := by
  simp [padLeft]
  omega

def paddedDecimal (width n : Nat) : List Char :=
  padLeft '0' width (Nat.toDigits 10 n)

def paddedHex (width n : Nat) : List Char :=
  padLeft '0' width (Nat.toDigits 16 n)

end WalCheckpoint.Text
