namespace ImageIntake

structure Rendition where
  data : ByteArray
  width : Nat
  height : Nat

def Rendition.maxSide : Nat := 16383

structure RenditionPair where
  full : Rendition
  thumbnail : Rendition

end ImageIntake
