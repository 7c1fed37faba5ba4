namespace WalCheckpoint.Text

/-! White space of Unicode text, and text without the white space around it. -/

def isBlank (c : Char) : Bool :=
  let n := c.toNat
  (9 ≤ n && n ≤ 13) || (28 ≤ n && n ≤ 32) || n == 0x85 || n == 0xA0 ||
    n == 0x1680 || (0x2000 ≤ n && n ≤ 0x200A) || n == 0x2028 || n == 0x2029 ||
    n == 0x202F || n == 0x205F || n == 0x3000

def isAsciiBlank (c : Char) : Bool :=
  let n := c.toNat
  (9 ≤ n && n ≤ 13) || n == 32

def dropEnd (drop : Char → Bool) (cs : List Char) : List Char :=
  (cs.reverse.dropWhile drop).reverse

def trimBy (drop : Char → Bool) (cs : List Char) : List Char :=
  dropEnd drop (cs.dropWhile drop)

def trim (s : String) : String :=
  String.ofList (trimBy isBlank s.toList)

def allBlank (s : String) : Bool :=
  s.toList.all isBlank

end WalCheckpoint.Text
