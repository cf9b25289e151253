namespace ImageIntake.Http

def isFieldByte (b : UInt8) : Bool :=
  b == 9 || (32 ≤ b && b != 127)

def isVisibleByte (b : UInt8) : Bool :=
  b == 9 || (32 ≤ b && b < 127)

def isHeaderText (s : String) : Bool :=
  s.toUTF8.data.all isFieldByte

def visibleText? (value : ByteArray) : Option String :=
  if value.data.all isVisibleByte then String.fromUTF8? value else none

end ImageIntake.Http
