import ImageIntake.Binary.Bytes
import ImageIntake.Picture.Basic
import ImageIntake.Webp.Alpha
import ImageIntake.Webp.Container
import ImageIntake.Webp.Lossless.Header
import ImageIntake.Webp.Lossless.Transform
import ImageIntake.Webp.Lossy.Frame

namespace ImageIntake.Webp

open Bytes

def pixelOfWord (word : UInt32) : Rgba :=
  ⟨(word >>> 16).toUInt8, (word >>> 8).toUInt8, word.toUInt8, (word >>> 24).toUInt8⟩

def lossless? (b : ByteArray) : Option (Raster Rgba) := do
  let header ← Lossless.Header.read? b 0
  let words ← Lossless.readImage b 40 header.width header.height
  Raster.ofArray? header.width header.height (words.map pixelOfWord)

def lossy? (b : ByteArray) (alpha : Option ByteArray) : Option (Raster Rgba) := do
  let frame ← Lossy.Frame.decode? b
  let raster := frame.raster
  match alpha with
  | none => return raster
  | some content =>
      let samples ← Alpha.read? content frame.width frame.height
      return Raster.ofFn raster.width raster.height fun x y hx hy =>
        { raster.pixelAt x y hx hy with
          alpha := (Bits.byteAt samples (y * raster.width + x)).toUInt8 }

def image? (b : ByteArray) (chunks : List Chunk) (hasAlpha : Bool) : Option (Raster Rgba) :=
  match find? chunks "VP8L" with
  | some extent =>
      (lossless? (extent.content b)).map fun r => if hasAlpha then r else r.map Rgba.withoutAlpha
  | none =>
      (find? chunks "VP8 ").bind fun extent =>
        if hasAlpha then
          (find? chunks "ALPH").bind fun alpha => lossy? (extent.content b) (alpha.content b)
        else lossy? (extent.content b) none

def place (image : Raster Rgba) (width height left top : Nat) : Raster Rgba :=
  Raster.ofFn width height fun x y _ _ =>
    if left ≤ x ∧ top ≤ y then (image.get? (x - left) (y - top)).getD .clear else .clear

def firstFrame? (b : ByteArray) (canvas : Canvas) (e : Extent) : Option (Raster Rgba) := do
  guard (e.start + 24 ≤ b.size)
  let left := 2 * word24 .little b e.start
  let top := 2 * word24 .little b (e.start + 3)
  let width := word24 .little b (e.start + 6) + 1
  let height := word24 .little b (e.start + 9) + 1
  guard (left + width ≤ canvas.width && top + height ≤ canvas.height)
  let chunks := Chunk.list b e.stop 8 (e.start + 16)
  let image ← image? b chunks (has chunks "VP8L" || has chunks "ALPH")
  guard (image.width = width && image.height = height)
  let placed := place image canvas.width canvas.height left top
  return if canvas.hasAlpha then placed else placed.map Rgba.withoutAlpha

def onCanvas? (b : ByteArray) (first : Chunk) : Option (Raster Rgba) := do
  let canvas ← Canvas.read? b first.extent
  let size := canvas.width * canvas.height * (if canvas.hasAlpha then 4 else 3)
  guard (size ≤ Picture.maxDecodedBytes)
  let chunks := Chunk.list b (first.next + (word32 .little b 4 - 12)) b.size first.next
  guard (canvas.isComplete chunks)
  let image ← if canvas.isAnimated then (find? chunks "ANMF").bind (firstFrame? b canvas)
    else image? b chunks canvas.hasAlpha
  guard (image.width = canvas.width && image.height = canvas.height)
  return image

def single? (b : ByteArray) (first : Chunk) : Option (Raster Rgba) := do
  let content := first.extent.content b
  if first.name = "VP8L" then
    let header ← Lossless.Header.read? content 0
    guard (header.width * header.height * (if header.hasAlpha then 4 else 3) ≤
      Picture.maxDecodedBytes)
    image? b [first] header.hasAlpha
  else if first.name = "VP8 " then image? b [first] false
  else none

def decode? (b : ByteArray) : Option Picture := do
  let first ← Chunk.at? b 12
  let raster ← if first.name = "VP8X" then onCanvas? b first else single? b first
  Picture.ofRaster? raster

end ImageIntake.Webp
