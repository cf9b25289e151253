import ImageIntake.Picture.Upright

namespace ImageIntake

inductive ColourType where
  | luma8
  | lumaAlpha8
  | rgb8
  | rgba8
  | luma16
  | lumaAlpha16
  | rgb16
  | rgba16
  | rgb32F
  | rgba32F
  deriving DecidableEq, Repr

structure Image (Pixel : ColourType → Type) where
  colour : ColourType
  raster : Raster (Pixel colour)

namespace Image

variable {Pixel : ColourType → Type}

abbrev width (i : Image Pixel) : Nat := i.raster.width

abbrev height (i : Image Pixel) : Nat := i.raster.height

def turned (i : Image Pixel) (u : Upright) : Image Pixel := ⟨i.colour, u.apply i.raster⟩

end Image

inductive ColourMode where
  | rgb
  | rgba
  deriving DecidableEq, Repr

def ColourMode.colour : ColourMode → ColourType
  | .rgb => .rgb8
  | .rgba => .rgba8

structure Pixels (Pixel : ColourType → Type) where
  mode : ColourMode
  raster : Raster (Pixel mode.colour)

namespace Pixels

variable {Pixel : ColourType → Type}

abbrev width (p : Pixels Pixel) : Nat := p.raster.width

abbrev height (p : Pixels Pixel) : Nat := p.raster.height

end Pixels

end ImageIntake
