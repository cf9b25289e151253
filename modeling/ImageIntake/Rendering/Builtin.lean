import ImageIntake.Gif
import ImageIntake.Jpeg.Reader
import ImageIntake.Picture.Exif
import ImageIntake.Picture.Resize
import ImageIntake.Png.Basic
import ImageIntake.Rendering
import ImageIntake.Webp.Reader
import ImageIntake.Webp.Writer

namespace ImageIntake.Builtin

abbrev Colour : ColourType → Type := fun _ => Rgba

def decode (file : ByteArray) : Except String (Image Colour) :=
  match FileFormat.ofFile? file with
  | none => .error "The image format could not be determined"
  | some format =>
      let image? : Option (Image Colour) := match format with
        | .png => Png.decode? file
        | .jpeg => (Jpeg.decode? file).map fun p => ⟨.rgb8, p.raster⟩
        | .gif => (Gif.decode? file).map fun p => ⟨.rgba8, p.raster⟩
        | .webp => (Webp.decode? file).map fun p =>
            ⟨if p.hasAlpha then .rgba8 else .rgb8, p.raster⟩
      match image? with
      | none => .error "Format error decoding the image"
      | some image => .ok image

def encode (p : Pixels Colour) (quality : Float32) : Except String ByteArray :=
  if ¬(0 ≤ quality ∧ quality ≤ 100) then .error "VP8_ENC_ERROR_INVALID_CONFIGURATION"
  else match Picture.ofRaster? p.raster with
    | none => .error "VP8_ENC_ERROR_BAD_DIMENSION"
    | some picture => .ok (Webp.encode picture)

/-- Readers and writers that need nothing from outside. What is encoded loses nothing. -/
def codec : Codec Colour where
  decode
  recordedTag? := Exif.recordedTag?
  toRgb _ := Rgba.withoutAlpha
  toRgba _ := id
  resize _ raster width height := Raster.resize raster width height
  encode

end ImageIntake.Builtin
