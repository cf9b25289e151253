import ImageIntake.Binary.Bytes

namespace ImageIntake.Png

inductive Colour where
  | gray
  | rgb
  | palette
  | grayAlpha
  | rgba
  deriving DecidableEq, Repr

namespace Colour

def ofCode? : Nat → Option Colour
  | 0 => some .gray
  | 2 => some .rgb
  | 3 => some .palette
  | 4 => some .grayAlpha
  | 6 => some .rgba
  | _ => none

def samples : Colour → Nat
  | .gray => 1
  | .rgb => 3
  | .palette => 1
  | .grayAlpha => 2
  | .rgba => 4

def allows (colour : Colour) (depth : Nat) : Bool :=
  match colour with
  | .gray => [1, 2, 4, 8, 16].contains depth
  | .palette => [1, 2, 4, 8].contains depth
  | _ => [8, 16].contains depth

end Colour

structure Header where
  width : Nat
  height : Nat
  depth : Nat
  colour : Colour
  interlaced : Bool
  deriving DecidableEq, Repr

namespace Header

open Bytes

def ofContent? (b : ByteArray) : Option Header := do
  guard (b.size = 13)
  let colour ← Colour.ofCode? (at0 b 9)
  let header : Header :=
    ⟨word32 .big b 0, word32 .big b 4, at0 b 8, colour, at0 b 12 = 1⟩
  guard (0 < header.width && 0 < header.height && colour.allows header.depth)
  guard (at0 b 10 = 0 && at0 b 11 = 0 && at0 b 12 ≤ 1)
  return header

def pixelBits (h : Header) : Nat := h.colour.samples * h.depth

def rowBytes (h : Header) (columns : Nat) : Nat := (columns * h.pixelBits + 7) / 8

def filterStep (h : Header) : Nat := max 1 (h.pixelBits / 8)

end Header

end ImageIntake.Png
