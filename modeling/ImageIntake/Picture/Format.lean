import ImageIntake.Binary.Bytes

namespace ImageIntake

inductive FileFormat where
  | png
  | jpeg
  | gif
  | webp
  deriving DecidableEq, Repr

namespace FileFormat

open Bytes

def pngSignature : List UInt8 := [0x89, 0x50, 0x4e, 0x47, 0x0d, 0x0a, 0x1a, 0x0a]

def ofFile? (b : ByteArray) : Option FileFormat :=
  if hasBytes b 0 pngSignature then some .png
  else if hasBytes b 0 [0xff, 0xd8, 0xff] then some .jpeg
  else if hasText b 0 "GIF87a" || hasText b 0 "GIF89a" then some .gif
  else if hasText b 0 "RIFF" && hasText b 8 "WEBP" then some .webp
  else none

end FileFormat

end ImageIntake
