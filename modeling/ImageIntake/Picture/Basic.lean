import ImageIntake.Picture.Raster
import ImageIntake.Picture.Rgba

namespace ImageIntake

structure Picture where
  raster : Raster Rgba
  width_pos : 0 < raster.width
  height_pos : 0 < raster.height

namespace Picture

abbrev width (p : Picture) : Nat := p.raster.width

abbrev height (p : Picture) : Nat := p.raster.height

def ofRaster? (r : Raster Rgba) : Option Picture :=
  if h : 0 < r.width ∧ 0 < r.height then some ⟨r, h.1, h.2⟩ else none

def hasAlpha (p : Picture) : Bool := p.raster.pixels.any fun pixel => pixel.alpha != 255

def maxDecodedBytes : Nat := 512 * 1024 * 1024

end Picture

end ImageIntake
