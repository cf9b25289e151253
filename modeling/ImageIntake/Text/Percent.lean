import ImageIntake.Text.CodeRanges

namespace ImageIntake.Text

def lowerHexDigit (n : Nat) : Char :=
  if n < 10 then Char.ofNat (48 + n) else Char.ofNat (87 + n)

def upperHexDigit (n : Nat) : Char :=
  if n < 10 then Char.ofNat (48 + n) else Char.ofNat (55 + n)

def hexOfBytes (bytes : List UInt8) : List Char :=
  bytes.flatMap fun b => [lowerHexDigit (b.toNat / 16), lowerHexDigit (b.toNat % 16)]

def hexOfByteArray (bytes : ByteArray) : String :=
  String.ofList (hexOfBytes bytes.toList)

def hexByteValue? (b : UInt8) : Option Nat :=
  hexValue? (Char.ofNat b.toNat)

def percentDecode : List UInt8 → List UInt8
  | 0x25 :: high :: low :: rest =>
      match hexByteValue? high, hexByteValue? low with
      | some h, some l => UInt8.ofNat (h * 16 + l) :: percentDecode rest
      | _, _ => 0x25 :: percentDecode (high :: low :: rest)
  | b :: rest => b :: percentDecode rest
  | [] => []

def isUnreserved (b : UInt8) : Bool :=
  (48 ≤ b && b ≤ 57) || (65 ≤ b && b ≤ 90) || (97 ≤ b && b ≤ 122) ||
    b == 45 || b == 46 || b == 95 || b == 126

def percentEncode (keeps : UInt8 → Bool) (bytes : List UInt8) : List Char :=
  bytes.flatMap fun b =>
    if keeps b then [Char.ofNat b.toNat]
    else ['%', upperHexDigit (b.toNat / 16), upperHexDigit (b.toNat % 16)]

def escapeUnreserved (s : String) : String :=
  String.ofList (percentEncode isUnreserved s.toUTF8.toList)

def escapePath (s : String) : String :=
  String.ofList (percentEncode (fun b => isUnreserved b || b == 47) s.toUTF8.toList)

end ImageIntake.Text
