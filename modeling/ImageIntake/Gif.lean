import ImageIntake.Binary.Bytes
import ImageIntake.Binary.Lzw
import ImageIntake.Picture.Basic

namespace ImageIntake.Gif

open Bytes

def joinBlocks (b : ByteArray) : Nat → Nat → ByteArray → ByteArray × Nat
  | 0, place, data => (data, place)
  | fuel + 1, place, data =>
      let length := at0 b place
      if length = 0 then (data, place + 1)
      else joinBlocks b fuel (place + 1 + length)
        (data ++ b.extract (place + 1) (place + 1 + length))

def readPalette (b : ByteArray) (flags place : Nat) : Option (Option ByteArray × Nat) :=
  if flags / 128 % 2 = 0 then some (none, place)
  else
    let stop := place + 3 <<< (flags % 8 + 1)
    if b.size < stop then none else some (some (b.extract place stop), stop)

structure Screen where
  width : Nat
  height : Nat
  palette : Option ByteArray

structure Frame where
  left : Nat
  top : Nat
  width : Nat
  height : Nat
  palette : ByteArray
  transparent : Option Nat
  isInterlaced : Bool
  indices : ByteArray

def readFrame (b : ByteArray) (screen : Screen) (transparent : Option Nat) (place : Nat) :
    Option Frame := do
  guard (place + 9 ≤ b.size)
  let width := word16 .little b (place + 4)
  let height := word16 .little b (place + 6)
  let flags := at0 b (place + 8)
  let (own, place') ← readPalette b flags (place + 9)
  let palette ← own <|> screen.palette
  let codeBits := at0 b place'
  guard (place' < b.size && codeBits ≤ 11)
  let (data, _) := joinBlocks b b.size (place' + 1) .empty
  let indices ← Lzw.expand? data codeBits (width * height)
  return {
    left := word16 .little b place, top := word16 .little b (place + 2), width, height, palette,
    transparent, isInterlaced := flags / 64 % 2 = 1, indices }

def readBlocks (b : ByteArray) (screen : Screen) : Nat → Nat → Option Nat → Option Frame
  | 0, _, _ => none
  | fuel + 1, place, transparent =>
      match at0 b place with
      | 0x2c => readFrame b screen transparent (place + 1)
      | 0x21 =>
          let (data, next) := joinBlocks b b.size (place + 2) .empty
          if b.size < next then none
          else if at0 b (place + 1) = 0xf9 then
            if at0 b (place + 2) ≠ 4 then none
            else readBlocks b screen fuel next
              (if at0 data 0 % 2 = 1 then some (at0 data 3) else none)
          else readBlocks b screen fuel next transparent
      | _ => none

namespace Frame

def storedRow (f : Frame) (y : Nat) : Nat :=
  if !f.isInterlaced then y
  else
    let eighths := (f.height + 7) / 8
    let fourths := (f.height + 3) / 8
    let halves := (f.height + 1) / 4
    if y % 8 = 0 then y / 8
    else if y % 8 = 4 then eighths + y / 8
    else if y % 4 = 2 then eighths + fourths + y / 4
    else eighths + fourths + halves + y / 2

def colour (f : Frame) (i : Nat) : Rgba :=
  if f.palette.size < 3 * i + 3 then .clear
  else
    let byte (k : Nat) := f.palette.get! (3 * i + k)
    ⟨byte 0, byte 1, byte 2, if f.transparent = some i then 0 else 255⟩

def onScreen (f : Frame) (screen : Screen) : Raster Rgba :=
  let colours := Array.ofFn fun i : Fin 256 => f.colour i
  Raster.ofFn screen.width screen.height fun x y _ _ =>
    if f.left ≤ x ∧ x < f.left + f.width ∧ f.top ≤ y ∧ y < f.top + f.height then
      colours.getD (at0 f.indices (f.storedRow (y - f.top) * f.width + (x - f.left))) .clear
    else .clear

end Frame

def decode? (b : ByteArray) : Option Picture := do
  guard (13 ≤ b.size)
  let (palette, place) ← readPalette b (at0 b 10) 13
  let screen : Screen := ⟨word16 .little b 6, word16 .little b 8, palette⟩
  guard (4 * screen.width * screen.height ≤ Picture.maxDecodedBytes)
  let frame ← readBlocks b screen b.size place none
  Picture.ofRaster? (frame.onScreen screen)

end ImageIntake.Gif
