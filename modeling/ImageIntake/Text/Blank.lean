namespace ImageIntake.Text

def isBlank (c : Char) : Bool :=
  let n := c.toNat
  (9 ≤ n && n ≤ 13) || n == 0x20 || n == 0x85 || n == 0xa0 || n == 0x1680 ||
    (0x2000 ≤ n && n ≤ 0x200a) || n == 0x2028 || n == 0x2029 || n == 0x202f || n == 0x205f ||
    n == 0x3000

def stripList (p : Char → Bool) (cs : List Char) : List Char :=
  ((cs.dropWhile p).reverse.dropWhile p).reverse

def trim (s : String) : String :=
  String.ofList (stripList isBlank s.toList)

@[simp] theorem toList_trim (s : String) : (trim s).toList = stripList isBlank s.toList := by
  simp [trim]

def trimEndOf (c : Char) (s : String) : String :=
  String.ofList (s.toList.reverse.dropWhile (· == c)).reverse

@[simp] theorem toList_trimEndOf (c : Char) (s : String) :
    (trimEndOf c s).toList = (s.toList.reverse.dropWhile (· == c)).reverse := by
  simp [trimEndOf]

def lowerAscii (c : Char) : Char :=
  if 'A' ≤ c ∧ c ≤ 'Z' then Char.ofNat (c.toNat + 32) else c

def toLowerAscii (s : String) : String :=
  String.ofList (s.toList.map lowerAscii)

end ImageIntake.Text
