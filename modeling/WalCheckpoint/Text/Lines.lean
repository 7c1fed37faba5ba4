namespace WalCheckpoint.Text

/-! Text of files: bytes in UTF-8, where every way to end a line counts as one newline. -/

def joinLineEnds : List Char → List Char
  | [] => []
  | [c] => if c = '\r' then ['\n'] else [c]
  | c :: d :: rest =>
      if c = '\r' then
        if d = '\n' then '\n' :: joinLineEnds rest else '\n' :: joinLineEnds (d :: rest)
      else c :: joinLineEnds (d :: rest)

def decode? (bytes : ByteArray) : Option String :=
  (String.fromUTF8? bytes).map fun text => String.ofList (joinLineEnds text.toList)

end WalCheckpoint.Text
