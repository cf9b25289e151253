namespace ImageIntake

structure Rgba where
  red : UInt8
  green : UInt8
  blue : UInt8
  alpha : UInt8
  deriving DecidableEq, Repr

namespace Rgba

def clear : Rgba := ⟨0, 0, 0, 0⟩

def solid (red green blue : UInt8) : Rgba := ⟨red, green, blue, 255⟩

def gray (level : UInt8) : Rgba := solid level level level

def withoutAlpha (p : Rgba) : Rgba := { p with alpha := 255 }

end Rgba

end ImageIntake
