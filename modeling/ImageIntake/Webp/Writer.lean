import ImageIntake.Binary.Bits
import ImageIntake.Binary.Bytes
import ImageIntake.Picture.Basic
import ImageIntake.Webp.Lossless.Header

namespace ImageIntake.Webp

open Bytes

def chunk (name : String) (content : ByteArray) : ByteArray :=
  name.toUTF8 ++ ⟨(ofWord32 .little content.size).toArray⟩ ++
    (if content.size % 2 = 0 then content else content.push 0)

def file (chunks : ByteArray) : ByteArray := chunk "RIFF" ("WEBP".toUTF8 ++ chunks)

def writeByteCode (w : BitWriter) : BitWriter :=
  ((((w.append 1 0).append 4 8).append 32 0).append 4 0b0010).append 12 0b111111100111

def writeSingleCode (w : BitWriter) (symbol : UInt8) : BitWriter :=
  ((w.append 2 0b01).append 1 1).append 8 symbol.toUInt32

def wordOf (sample : UInt8) : UInt32 := (Bits.reverse 8 sample.toNat).toUInt32

def words : Array UInt32 := Array.ofFn fun sample : Fin 256 => wordOf (.ofNat sample)

def writeSample (w : BitWriter) (sample : UInt8) : BitWriter :=
  w.append 8 (words.getD sample.toNat 0)

def writePixel (hasAlpha : Bool) (w : BitWriter) (p : Rgba) : BitWriter :=
  let w := writeSample (writeSample (writeSample w p.green) p.red) p.blue
  if hasAlpha then writeSample w p.alpha else w

def losslessBits (p : Picture) : ByteArray :=
  let hasAlpha := p.hasAlpha
  let w := BitWriter.empty.append 3 0
  let w := writeByteCode (writeByteCode (writeByteCode w))
  let w := if hasAlpha then writeByteCode w else writeSingleCode w 255
  let w := writeSingleCode w 0
  (p.raster.pixels.foldl (writePixel hasAlpha) w).toByteArray

def encode (p : Picture) : ByteArray :=
  file (chunk "VP8L" ((Lossless.Header.mk p.width p.height p.hasAlpha).toByteArray ++ losslessBits p))

end ImageIntake.Webp
