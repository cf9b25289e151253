import ImageIntake.Binary.Deflate
import ImageIntake.Picture.Basic
import ImageIntake.Picture.Image
import ImageIntake.Png.Chunk
import ImageIntake.Png.Scanline

namespace ImageIntake.Png

def narrow (depth : Nat) (sample : UInt32) : UInt8 :=
  match depth with
  | 1 => (sample * 255).toUInt8
  | 2 => (sample * 85).toUInt8
  | 4 => (sample * 17).toUInt8
  | 16 => ((sample + 128) / 257).toUInt8
  | _ => sample.toUInt8

def paletteAlphas (palette : ByteArray) : Option ByteArray → ByteArray
  | some alphas => if palette.size / 3 < alphas.size then .empty else alphas
  | none => .empty

def paletteColour (palette alphas : ByteArray) (i : Nat) : Rgba :=
  if palette.size / 3 ≤ i then .solid 0 0 0
  else
    let byte (j : Nat) := (Bits.byteAt palette (3 * i + j)).toUInt8
    ⟨byte 0, byte 1, byte 2, if i < alphas.size then (Bits.byteAt alphas i).toUInt8 else 255⟩

def transparentColour (p : Preamble) : Option (UInt32 × UInt32 × UInt32) :=
  p.transparency.map fun b =>
    let sample (i : Nat) :=
      if p.header.depth = 16 then Bits.byteAt b (2 * i) <<< 8 ||| Bits.byteAt b (2 * i + 1)
      else Bits.byteAt b (2 * i + 1)
    (sample 0, sample 1, sample 2)

structure Meaning where
  hidden : Option (UInt32 × UInt32 × UInt32)
  colours : Array Rgba

def Meaning.of (p : Preamble) : Meaning :=
  let palette := p.palette.getD .empty
  let alphas := paletteAlphas palette p.transparency
  { hidden := if p.header.colour = .rgb then transparentColour p else none
    colours := if p.header.colour = .palette
      then Array.ofFn fun i : Fin 256 => paletteColour palette alphas i
      else #[] }

def pixel (h : Header) (m : Meaning) (sample : Nat → UInt32) : Rgba :=
  let narrowed (i : Nat) : UInt8 := narrow h.depth (sample i)
  match h.colour with
  | .gray => .gray (narrowed 0)
  | .grayAlpha => ⟨narrowed 0, narrowed 0, narrowed 0, narrowed 1⟩
  | .rgb =>
      let isHidden := m.hidden == some (sample 0, sample 1, sample 2)
      ⟨narrowed 0, narrowed 1, narrowed 2, if isHidden then 0 else 255⟩
  | .rgba => ⟨narrowed 0, narrowed 1, narrowed 2, narrowed 3⟩
  | .palette => m.colours.getD (sample 0).toNat (.solid 0 0 0)

def decodedSamples (p : Preamble) : Nat :=
  match p.header.colour with
  | .gray => if p.transparency.isSome then 2 else 1
  | .grayAlpha => 2
  | .rgb => if p.transparency.isSome then 4 else 3
  | .rgba => 4
  | .palette => if p.transparency.isSome then 4 else 3

def colourType (p : Preamble) : ColourType :=
  let isDeep := p.header.depth = 16
  match decodedSamples p with
  | 1 => if isDeep then .luma16 else .luma8
  | 2 => if isDeep then .lumaAlpha16 else .lumaAlpha8
  | 3 => if isDeep then .rgb16 else .rgb8
  | _ => if isDeep then .rgba16 else .rgba8

def decodedBytes (p : Preamble) : Nat :=
  p.header.width * p.header.height * decodedSamples p * (if p.header.depth = 16 then 2 else 1)

def assemble (p : Preamble) (layers : List Layer) : Raster Rgba :=
  let h := p.header
  let layers := layers.toArray
  let meaning := Meaning.of p
  let samples := h.colour.samples
  Raster.ofFn h.width h.height fun x y _ _ =>
    match layers[if h.interlaced then Pass.indexOf x y else 0]? with
    | none => .clear
    | some layer =>
        let column := (x - layer.pass.startX) / layer.pass.stepX
        let row := (y - layer.pass.startY) / layer.pass.stepY
        pixel h meaning fun i =>
          sampleAt h.depth layer.rows (row * layer.rowBytes) (column * samples + i)

def decode? (b : ByteArray) : Option (Image fun _ => Rgba) := do
  let (preamble, data) ← readChunks b
  guard (decodedBytes preamble ≤ Picture.maxDecodedBytes)
  let stored ← Deflate.inflate? data preamble.header.storedBytes
  let layers ← restoreLayers preamble.header stored preamble.header.passes 0
  let picture ← Picture.ofRaster? (assemble preamble layers)
  return ⟨colourType preamble, picture.raster⟩

end ImageIntake.Png
