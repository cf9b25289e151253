import ImageIntake.Picture.Fit
import ImageIntake.Picture.Image
import ImageIntake.Picture.Rendition

namespace ImageIntake

structure Profile where
  maxSide : Option Nat
  quality : Float32

namespace Profile

def full : Profile := ⟨none, 82⟩

def thumbnail : Profile := ⟨some 640, 78⟩

def targetSize (p : Profile) (width height : Nat) : Nat × Nat :=
  match p.maxSide with
  | none => (width, height)
  | some limit => fitWithin width height limit

end Profile

inductive RenderError where
  | undecodable (cause : String)
  | tooLarge (width height : Nat)
  | unencodable (cause : String)
  deriving DecidableEq, Repr

def RenderError.message : RenderError → String
  | .undecodable cause => "Failed to decode image: " ++ cause
  | .tooLarge width height =>
      "Failed to encode image: " ++ toString width ++ "x" ++ toString height ++
        " exceeds the WebP limit of " ++ toString Rendition.maxSide ++ " px per side"
  | .unencodable cause => "Failed to encode image: " ++ cause

/-- What renditions are made with: a decoder of image files, a reader of the orientation tag, the
conversions of pixels to eight bits, a resizer and an encoder. -/
structure Codec (Pixel : ColourType → Type) where
  decode : ByteArray → Except String (Image Pixel)
  recordedTag? : ByteArray → Option Nat
  toRgb (colour : ColourType) : Pixel colour → Pixel .rgb8
  toRgba (colour : ColourType) : Pixel colour → Pixel .rgba8
  resize (mode : ColourMode) (raster : Raster (Pixel mode.colour)) (width height : Nat) :
    Raster (Pixel mode.colour)
  encode : Pixels Pixel → Float32 → Except String ByteArray

namespace Codec

variable {Pixel : ColourType → Type} (codec : Codec Pixel)

def upright? (file : ByteArray) : Option Upright :=
  (codec.recordedTag? file).bind Upright.ofTag?

def pixels : Image Pixel → Pixels Pixel
  | ⟨.rgb8, raster⟩ => ⟨.rgb, raster⟩
  | ⟨.rgba8, raster⟩ => ⟨.rgba, raster⟩
  | ⟨.rgba16, raster⟩ => ⟨.rgba, raster.map (codec.toRgba .rgba16)⟩
  | ⟨.rgba32F, raster⟩ => ⟨.rgba, raster.map (codec.toRgba .rgba32F)⟩
  | ⟨colour, raster⟩ => ⟨.rgb, raster.map (codec.toRgb colour)⟩

def readPixels (file : ByteArray) : Except RenderError (Pixels Pixel) :=
  match codec.decode file with
  | .error cause => .error (.undecodable cause)
  | .ok image => .ok (codec.pixels (image.turned ((codec.upright? file).getD .identity)))

def fitted (p : Pixels Pixel) (profile : Profile) : Pixels Pixel :=
  let size := profile.targetSize p.width p.height
  if size = (p.width, p.height) then p
  else ⟨p.mode, codec.resize p.mode p.raster size.1 size.2⟩

def encodeWithin (p : Pixels Pixel) (quality : Float32) : Except RenderError ByteArray :=
  if Rendition.maxSide < p.width ∨ Rendition.maxSide < p.height then
    .error (.tooLarge p.width p.height)
  else match codec.encode p quality with
    | .error cause => .error (.unencodable cause)
    | .ok data => .ok data

def render (p : Pixels Pixel) (profile : Profile) : Except RenderError Rendition :=
  match codec.encodeWithin (codec.fitted p profile) profile.quality with
  | .error e => .error e
  | .ok data => .ok ⟨data, (codec.fitted p profile).width, (codec.fitted p profile).height⟩

def renderFile (file : ByteArray) (profile : Profile) : Except RenderError Rendition :=
  match codec.readPixels file with
  | .error e => .error e
  | .ok p => codec.render p profile

def renderPair? (file : ByteArray) : Option RenditionPair := do
  let p ← (codec.readPixels file).toOption
  let full ← (codec.render p .full).toOption
  let thumbnail ← (codec.render p .thumbnail).toOption
  return ⟨full, thumbnail⟩

end Codec

end ImageIntake
