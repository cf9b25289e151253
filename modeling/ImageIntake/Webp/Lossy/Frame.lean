import ImageIntake.Binary.Bytes
import ImageIntake.Picture.Raster
import ImageIntake.Picture.Rgba
import ImageIntake.Webp.Lossy.Smoothing

namespace ImageIntake.Webp.Lossy

open Bytes

structure Preamble where
  width : Nat
  height : Nat
  headerBytes : Nat
  deriving DecidableEq, Repr

namespace Preamble

def size : Nat := 10

def read? (b : ByteArray) : Option Preamble :=
  let tag := word24 .little b 0
  let p : Preamble := ⟨word16 .little b 6 % 0x4000, word16 .little b 8 % 0x4000, tag / 32⟩
  if size ≤ b.size && tag % 2 = 0 && tag / 2 % 8 ≤ 3 && tag / 16 % 2 = 1 &&
      hasBytes b 3 [0x9d, 0x01, 0x2a] && 0 < p.width && 0 < p.height then
    some p
  else none

def columns (p : Preamble) : Nat := (p.width + 15) / 16

def rows (p : Preamble) : Nat := (p.height + 15) / 16

end Preamble

def partitions? (b : ByteArray) (place count : Nat) : Option (Array BoolReader) :=
  let rec collect : Nat → Nat → Nat → Array BoolReader → Option (Array BoolReader)
    | 0, _, start, readers =>
        if b.size < start then none else some (readers.push (.ofRange b start b.size))
    | left + 1, i, start, readers =>
        let stop := start + word24 .little b (place + 3 * i)
        if b.size < stop then none
        else collect left (i + 1) stop (readers.push (.ofRange b start stop))
  collect (count - 1) 0 (place + 3 * (count - 1)) #[]

structure Frame where
  width : Nat
  height : Nat
  planes : Planes

def Frame.decode? (b : ByteArray) : Option Frame := do
  let preamble ← Preamble.read? b
  let (columns, rows) := (preamble.columns, preamble.rows)
  let start := Preamble.size + preamble.headerBytes
  guard (start ≤ b.size)
  let ((header, blocks), reader) := (do
    let header ← Header.read
    return (header, ← BlockHeader.readAll header columns rows) : Reader _).run
      (BoolReader.ofRange b Preamble.size start)
  guard reader.isSound
  let readers ← partitions? b start header.partitionCount
  let (residuals, readers) := Residual.readAll header columns blocks readers
  guard (readers.all BoolReader.isSound)
  let planes := Planes.restore columns rows blocks residuals
  return ⟨preamble.width, preamble.height, planes.smooth header columns blocks residuals⟩

def Plane.chromaAt (p : Plane) (columns rows x y : Nat) : Int :=
  let near (i count : Nat) : Nat × Nat :=
    (i / 2, min (count - 1) (if i % 2 = 0 then i / 2 - 1 else i / 2 + 1))
  let (x, x') := near x columns
  let (y, y') := near y rows
  let sampleAt (x y : Nat) := getSample p.samples (y * p.width + x)
  (9 * sampleAt x y + 3 * sampleAt x' y + 3 * sampleAt x y' + sampleAt x' y' + 8) / 16

def portion (x factor : Int) : Int := x * factor / 256

def ofSixtyFourths (x : Int) : UInt8 := (clampSample (x / 64)).toNat.toUInt8

def colour (luma blue red : Int) : Rgba :=
  let base := portion luma 19077
  .solid (ofSixtyFourths (base + portion red 26149 - 14234))
    (ofSixtyFourths (base - portion blue 6419 - portion red 13320 + 8708))
    (ofSixtyFourths (base + portion blue 33050 - 17685))

def Frame.raster (f : Frame) : Raster Rgba :=
  let columns := (f.width + 1) / 2
  let rows := (f.height + 1) / 2
  Raster.ofFn f.width f.height fun x y _ _ =>
    colour (getSample f.planes.luma.samples (y * f.planes.luma.width + x))
      (f.planes.blue.chromaAt columns rows x y) (f.planes.red.chromaAt columns rows x y)

end ImageIntake.Webp.Lossy
