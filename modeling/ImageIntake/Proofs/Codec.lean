import ImageIntake.Proofs.Rendering
import ImageIntake.Rendering.Builtin

namespace ImageIntake

namespace Raster

variable {α β : Type}

theorem pixelAt_map (r : Raster α) (f : α → β) (x y : Nat) (hx : x < r.width) (hy : y < r.height) :
    (r.map f).pixelAt x y hx hy = f (r.pixelAt x y hx hy) := by
  simp only [pixelAt, map, Array.getElem_map]

theorem ofFn_eq_map {f : α → β} {width height : Nat}
    {pixel : (x y : Nat) → x < width → y < height → α}
    {changed : (x y : Nat) → x < width → y < height → β}
    (h : ∀ x y hx hy, changed x y hx hy = f (pixel x y hx hy)) :
    ofFn width height changed = (ofFn width height pixel).map f := by
  obtain rfl : changed = fun x y hx hy => f (pixel x y hx hy) := by
    funext x y hx hy
    exact h x y hx hy
  simp only [map, ofFn, Array.map_ofFn, Function.comp_def]

theorem turn_map (f : α → β) (r : Raster α) (turn : Turn) :
    (r.map f).turn turn = (r.turn turn).map f := by
  cases turn with
  | none => rfl
  | quarter | half | threeQuarters =>
      rw [Raster.turn, Raster.turn]
      refine ofFn_eq_map fun x y hx hy => ?_
      exact r.pixelAt_map f ..

theorem flip_map (f : α → β) (r : Raster α) : (r.map f).flip = r.flip.map f := by
  refine ofFn_eq_map fun x y hx hy => ?_
  exact r.pixelAt_map f ..

end Raster

namespace Upright

variable {α β : Type}

theorem apply_map (u : Upright) (f : α → β) (r : Raster α) :
    u.apply (r.map f) = (u.apply r).map f := by
  rw [apply, apply, Raster.turn_map]
  split
  · exact Raster.flip_map f _
  · rfl

def sizeOf (u : Upright) (size : Nat × Nat) : Nat × Nat :=
  if u.turn.quarters % 2 = 1 then (size.2, size.1) else size

theorem size_apply (u : Upright) (r : Raster α) :
    ((u.apply r).width, (u.apply r).height) = u.sizeOf (r.width, r.height) := by
  obtain ⟨turn, isFlipped⟩ := u
  cases turn <;> cases isFlipped <;> rfl

end Upright

variable {Pixel : ColourType → Type}

def Pixels.turned (p : Pixels Pixel) (u : Upright) : Pixels Pixel := ⟨p.mode, u.apply p.raster⟩

namespace Codec

variable {codec : Codec Pixel} {raw other : ByteArray}

theorem mode_pixels {image : Image Pixel} : (codec.pixels image).mode = .rgba ↔
    image.colour = .rgba8 ∨ image.colour = .rgba16 ∨ image.colour = .rgba32F := by
  obtain ⟨colour, raster⟩ := image
  cases colour <;> simp [pixels]

theorem pixels_turned (image : Image Pixel) (u : Upright) :
    codec.pixels (image.turned u) = (codec.pixels image).turned u := by
  obtain ⟨colour, raster⟩ := image
  cases colour with
  | rgb8 | rgba8 => rfl
  | rgba16 | rgba32F => exact congrArg (Pixels.mk .rgba) (u.apply_map _ raster).symm
  | luma8 | lumaAlpha8 | luma16 | lumaAlpha16 | rgb16 | rgb32F =>
      exact congrArg (Pixels.mk .rgb) (u.apply_map _ raster).symm

theorem size_pixels (image : Image Pixel) :
    ((codec.pixels image).width, (codec.pixels image).height) = (image.width, image.height) := by
  obtain ⟨colour, raster⟩ := image
  cases colour <;> rfl

theorem size_pixels_turned (image : Image Pixel) (u : Upright) :
    ((codec.pixels (image.turned u)).width, (codec.pixels (image.turned u)).height) =
      u.sizeOf (image.width, image.height) := by
  rw [size_pixels, Image.turned, Image.width, Image.height, u.size_apply]

theorem readPixels_eq_ok_iff {p : Pixels Pixel} : codec.readPixels raw = .ok p ↔
    ∃ image, codec.decode raw = .ok image ∧
      codec.pixels (image.turned ((codec.upright? raw).getD .identity)) = p := by
  rw [readPixels]
  cases codec.decode raw <;> simp

/-- Whether two files show the same: the same pixels of the same kind, to be turned in the same
way, or both nothing. -/
structure ShowsSame (codec : Codec Pixel) (raw other : ByteArray) : Prop where
  pixels : (codec.decode raw).toOption.map codec.pixels =
    (codec.decode other).toOption.map codec.pixels
  upright : (codec.upright? raw).getD .identity = (codec.upright? other).getD .identity

theorem toOption_readPixels (raw : ByteArray) : (codec.readPixels raw).toOption =
    ((codec.decode raw).toOption.map codec.pixels).map
      (·.turned ((codec.upright? raw).getD .identity)) := by
  rw [readPixels]
  cases codec.decode raw with
  | error => rfl
  | ok image => exact congrArg some (pixels_turned image _)

theorem ShowsSame.twoPasses (h : codec.ShowsSame raw other) :
    twoPasses codec.sanitize raw = twoPasses codec.sanitize other := by
  have hpixels : (codec.readPixels raw).toOption = (codec.readPixels other).toOption := by
    rw [toOption_readPixels, toOption_readPixels, h.pixels, h.upright]
  rw [← renderPair?_eq_twoPasses, renderPair?, renderPair?, hpixels]

def Resizes (codec : Codec Pixel) : Prop :=
  ∀ mode raster width height, (codec.resize mode raster width height).width = width ∧
    (codec.resize mode raster width height).height = height

def KeepsSize (codec : Codec Pixel) (measure : ByteArray → Option (Nat × Nat)) : Prop :=
  ∀ p quality data, p.width ≤ 16383 → p.height ≤ 16383 →
    codec.encode p quality = .ok data → measure data = some (p.width, p.height)

theorem Resizes.size_fitted (h : codec.Resizes) (p : Pixels Pixel) (profile : Profile) :
    ((codec.fitted p profile).width, (codec.fitted p profile).height) =
      profile.targetSize p.width p.height := by
  unfold fitted
  dsimp only
  split
  · next hsize => exact hsize.symm
  · obtain ⟨hw, hh⟩ := h p.mode p.raster (profile.targetSize p.width p.height).1
      (profile.targetSize p.width p.height).2
    exact Prod.ext hw hh

theorem encodeWithin_eq_ok_iff {p : Pixels Pixel} {quality : Float32} {data : ByteArray} :
    codec.encodeWithin p quality = .ok data ↔
      p.width ≤ 16383 ∧ p.height ≤ 16383 ∧ codec.encode p quality = .ok data := by
  rw [encodeWithin, Rendition.maxSide]
  split
  · next hlarge =>
    constructor
    · nofun
    · rintro ⟨hw, hh, -⟩
      omega
  · next hroom =>
    rw [not_or, Nat.not_lt, Nat.not_lt] at hroom
    cases codec.encode p quality <;> simp [hroom]

theorem sanitize_eq_rendition {profile : Profile} {r : Rendition}
    (h : codec.sanitize raw profile = .rendition r) :
    ∃ p, codec.readPixels raw = .ok p ∧
      codec.encodeWithin (codec.fitted p profile) profile.quality = .ok r.data ∧
      r.width = (codec.fitted p profile).width ∧ r.height = (codec.fitted p profile).height := by
  rw [Codec.sanitize, renderFile] at h
  cases hp : codec.readPixels raw with
  | error => rw [hp] at h; cases h
  | ok p =>
      simp only [hp, render] at h
      cases hdata : codec.encodeWithin (codec.fitted p profile) profile.quality with
      | error => rw [hdata] at h; cases h
      | ok data =>
          rw [hdata] at h
          obtain rfl := Pass.rendition.inj h
          exact ⟨p, rfl, hdata, rfl, rfl⟩

variable {measure : ByteArray → Option (Nat × Nat)}

theorem KeepsSize.rendition (hkeeps : codec.KeepsSize measure) (hresizes : codec.Resizes)
    {profile : Profile} {r : Rendition} (h : codec.sanitize raw profile = .rendition r) :
    ∃ p, codec.readPixels raw = .ok p ∧
      (r.width, r.height) = profile.targetSize p.width p.height ∧
      measure r.data = some (r.width, r.height) := by
  obtain ⟨p, hp, hdata, hwidth, hheight⟩ := sanitize_eq_rendition h
  obtain ⟨hw, hh, hencoded⟩ := encodeWithin_eq_ok_iff.mp hdata
  rw [hwidth, hheight]
  exact ⟨p, hp, hresizes.size_fitted p profile, hkeeps _ _ _ hw hh hencoded⟩

theorem KeepsSize.pair (hkeeps : codec.KeepsSize measure) (hresizes : codec.Resizes)
    {pair : RenditionPair} (h : ImageIntake.twoPasses codec.sanitize raw = some pair) :
    ∃ image, codec.decode raw = .ok image ∧ ∃ width height,
      ((codec.upright? raw).getD .identity).sizeOf (image.width, image.height) = (width, height) ∧
      pair.full.width = width ∧ pair.full.height = height ∧
      measure pair.full.data = some (width, height) ∧
      measure pair.thumbnail.data = some (fitWithin width height 640) := by
  obtain ⟨hfull, hthumbnail⟩ := twoPasses_eq_some_iff.mp h
  obtain ⟨p, hp, hsize, hmeasured⟩ := hkeeps.rendition hresizes hfull
  obtain ⟨p', hp', hsize', hmeasured'⟩ := hkeeps.rendition hresizes hthumbnail
  -- both passes start from the same upright pixels
  obtain rfl : p = p' := Except.ok.inj (hp.symm.trans hp')
  obtain ⟨image, hdecode, rfl⟩ := readPixels_eq_ok_iff.mp hp
  obtain ⟨hwidth, hheight⟩ := Prod.mk.inj hsize
  refine ⟨image, hdecode, _, _, (size_pixels_turned image _).symm, hwidth, hheight, ?_, ?_⟩
  · rw [hmeasured, hsize]
    rfl
  · rw [hmeasured', hsize']
    rfl

end Codec

namespace Sample

def lyingPng : ByteArray := ⟨#[
  0x89, 0x50, 0x4e, 0x47, 13, 10, 26, 10,
  0, 0, 0, 13, 0x49, 0x48, 0x44, 0x52, 0, 0, 0, 2, 0, 0, 0, 1, 8, 2, 0, 0, 0, 123, 64, 232, 221,
  0, 0, 0, 26, 0x65, 0x58, 0x49, 0x66,
  0x4d, 0x4d, 0, 42, 0, 0, 0, 8, 0, 1, 1, 0x12, 0, 3, 0, 0, 0, 1, 0, 6, 0, 0, 0, 0, 0, 0,
  214, 103, 75, 105,
  0, 0, 0, 18, 0x49, 0x44, 0x41, 0x54, 120, 1, 1, 7, 0, 248, 255, 0, 255, 0, 0, 0, 0, 255,
  7, 0, 1, 255, 85, 54, 186, 199,
  0, 0, 0, 0, 0x49, 0x45, 0x4e, 0x44, 174, 66, 96, 130]⟩

def plainGif : ByteArray := ⟨#[
  0x47, 0x49, 0x46, 0x38, 0x39, 0x61, 2, 0, 1, 0, 0x80, 0, 0, 255, 0, 0, 0, 0, 255,
  0x2c, 0, 0, 0, 0, 2, 0, 1, 0, 0, 2, 2, 0x44, 0x0a, 0, 0x3b]⟩

def tellingGif : ByteArray := ⟨#[
  0x47, 0x49, 0x46, 0x38, 0x39, 0x61, 2, 0, 1, 0, 0x80, 0, 0, 255, 0, 0, 0, 0, 255,
  0x21, 0xfe, 4, 0x68, 0x6f, 0x6d, 0x65, 0,
  0x2c, 0, 0, 0, 0, 2, 0, 1, 0, 0, 2, 2, 0x44, 0x0a, 0, 0x3b, 1, 2, 3]⟩

def redAndBlue : Raster Rgba :=
  .ofFn 2 1 fun x _ _ _ => if x = 0 then .solid 255 0 0 else .solid 0 0 255

/-- Knows the files above, and encodes without loss. -/
def codec : Codec Builtin.Colour where
  decode file :=
    if file.data = lyingPng.data then .ok ⟨.rgb8, redAndBlue⟩
    else if file.data = plainGif.data ∨ file.data = tellingGif.data then .ok ⟨.rgba8, redAndBlue⟩
    else .error "The image format could not be determined"
  recordedTag? file := if file.data = lyingPng.data then some 6 else none
  toRgb _ := Rgba.withoutAlpha
  toRgba _ := id
  resize _ raster width height := raster.resize width height
  encode := Builtin.encode

end Sample

end ImageIntake
