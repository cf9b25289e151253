import ImageIntake.Proofs.Codec
import ImageIntake.Proofs.Picture.Upright

namespace ImageIntake

instance Upright.decidableIsTag (tag : Nat) : Decidable (Upright.IsTag tag) :=
  inferInstanceAs (Decidable (1 ≤ tag ∧ tag ≤ 8))

theorem Upright.ofTag?_eq_none {tag : Nat} (h : ¬IsTag tag) : ofTag? tag = none := by
  unfold ofTag?
  split <;> first | rfl | exact absurd ⟨by decide, by decide⟩ h

theorem Profile.targetSize_pos (p : Profile) {width height : Nat} (hw : 0 < width)
    (hh : 0 < height) : 0 < (p.targetSize width height).1 ∧ 0 < (p.targetSize width height).2 := by
  unfold targetSize
  split
  · exact ⟨hw, hh⟩
  · exact fitWithin_pos hw hh

theorem fitWithin_le (width height limit : Nat) :
    (fitWithin width height limit).1 ≤ max limit 1 ∧
      (fitWithin width height limit).2 ≤ max limit 1 := by
  rw [fitWithin]
  dsimp only
  split
  · omega
  · exact ⟨Nat.min_le_left _ _, Nat.min_le_left _ _⟩

structure Pass.EndsAt (pass : Pass) (size : Nat × Nat) : Prop where
  rendition : size.1 ≤ 16383 → size.2 ≤ 16383 → ∃ data, pass = .rendition ⟨data, size.1, size.2⟩
  failure_iff : ∀ e, pass = .failure e ↔
    e = .tooLarge size.1 size.2 ∧ (16383 < size.1 ∨ 16383 < size.2)

theorem Pass.EndsAt.of_rendition {pass : Pass} {size : Nat × Nat} {r : Rendition}
    (h : pass.EndsAt size) (hr : pass = .rendition r) :
    (r.width, r.height) = size ∧ size.1 ≤ 16383 ∧ size.2 ≤ 16383 := by
  have hroom : ¬(16383 < size.1 ∨ 16383 < size.2) := by
    intro hlarge
    cases hr.symm.trans ((h.failure_iff _).mpr ⟨rfl, hlarge⟩)
  rw [not_or, Nat.not_lt, Nat.not_lt] at hroom
  obtain ⟨data, hdata⟩ := h.rendition hroom.1 hroom.2
  obtain rfl := Pass.rendition.inj (hr.symm.trans hdata)
  exact ⟨rfl, hroom⟩

namespace Codec

variable {Pixel : ColourType → Type} {codec : Codec Pixel} {raw : ByteArray} {profile : Profile}

def shownSize (codec : Codec Pixel) (file : ByteArray) (width height : Nat) : Nat × Nat :=
  match codec.recordedTag? file with
  | none => (width, height)
  | some tag => if Upright.IsTag tag then Upright.shownSize tag width height else (width, height)

theorem size_apply_upright? {α : Type} (file : ByteArray) (r : Raster α) :
    ((((codec.upright? file).getD .identity).apply r).width,
      (((codec.upright? file).getD .identity).apply r).height) =
      codec.shownSize file r.width r.height := by
  rw [upright?, shownSize]
  cases codec.recordedTag? file with
  | none => rfl
  | some tag =>
      rw [Option.bind_some]
      dsimp only
      split
      · next htag =>
        obtain ⟨u, hu⟩ := htag.exists_ofTag?
        rw [hu, Option.getD_some]
        exact Prod.ext (Upright.width_apply htag hu r) (Upright.height_apply htag hu r)
      · next htag =>
        rw [Upright.ofTag?_eq_none htag]
        rfl

theorem readPixels_of_decode {image : Image Pixel} {width height : Nat}
    (hdecode : codec.decode raw = .ok image)
    (hshown : codec.shownSize raw image.width image.height = (width, height)) :
    ∃ p, codec.readPixels raw = .ok p ∧ p.width = width ∧ p.height = height := by
  obtain ⟨hw, hh⟩ := Prod.mk.inj ((size_apply_upright? raw image.raster).trans hshown)
  let upright := image.turned ((codec.upright? raw).getD .identity)
  obtain ⟨hw', hh'⟩ := Prod.mk.inj (codec.size_pixels upright)
  exact ⟨_, readPixels_eq_ok_iff.mpr ⟨image, hdecode, rfl⟩, hw'.trans hw, hh'.trans hh⟩

theorem encodeWithin_of_lt {p : Pixels Pixel} {quality : Float32}
    (h : 16383 < p.width ∨ 16383 < p.height) :
    codec.encodeWithin p quality = .error (.tooLarge p.width p.height) := if_pos h

theorem encodeWithin_ne_undecodable {p : Pixels Pixel} {quality : Float32} {cause : String} :
    codec.encodeWithin p quality ≠ .error (.undecodable cause) := by
  rw [encodeWithin]
  split
  · simp
  · cases codec.encode p quality <;> simp

theorem sanitize_of_readPixels {p : Pixels Pixel} (hp : codec.readPixels raw = .ok p) :
    codec.sanitize raw profile =
      match codec.encodeWithin (codec.fitted p profile) profile.quality with
      | .ok data =>
          .rendition ⟨data, (codec.fitted p profile).width, (codec.fitted p profile).height⟩
      | .error e => .failure e := by
  rw [sanitize, renderFile, hp]
  dsimp only
  rw [render]
  cases codec.encodeWithin (codec.fitted p profile) profile.quality <;> rfl

theorem sanitize_eq_undecodable_iff {cause : String} :
    codec.sanitize raw profile = .failure (.undecodable cause) ↔
      codec.decode raw = .error cause := by
  cases hdecode : codec.decode raw with
  | error =>
      rw [sanitize, renderFile, readPixels, hdecode]
      simp
  | ok image =>
      obtain ⟨p, hp, -, -⟩ := readPixels_of_decode hdecode rfl
      rw [sanitize_of_readPixels hp]
      -- the errors of an image that was decoded are others
      cases hdata : codec.encodeWithin (codec.fitted p profile) profile.quality with
      | ok => simp
      | error e =>
          simp only [Pass.failure.injEq, reduceCtorEq, iff_false]
          rintro rfl
          exact encodeWithin_ne_undecodable hdata

/-- What renditions rely on: no decoded image has an empty side, what is resized has the size that
was asked for, and the encoder takes all images that the format has room for. -/
structure Lawful (codec : Codec Pixel) : Prop where
  filled : ∀ file image, codec.decode file = .ok image → 0 < image.width ∧ 0 < image.height
  resizes : codec.Resizes
  accepts : ∀ (p : Pixels Pixel) (quality : Float32), 0 ≤ quality ∧ quality ≤ 100 →
    1 ≤ p.width ∧ p.width ≤ 16383 → 1 ≤ p.height ∧ p.height ≤ 16383 →
    ∃ data, codec.encode p quality = .ok data

namespace Lawful

variable (hlawful : codec.Lawful)

include hlawful

theorem pos_of_readPixels {p : Pixels Pixel} (hp : codec.readPixels raw = .ok p) :
    0 < p.width ∧ 0 < p.height := by
  obtain ⟨image, hdecode, rfl⟩ := readPixels_eq_ok_iff.mp hp
  let u := (codec.upright? raw).getD .identity
  obtain ⟨hw, hh⟩ := Prod.mk.inj (codec.size_pixels (image.turned u))
  rw [hw, hh]
  obtain ⟨hwidth, hheight⟩ := hlawful.filled raw image hdecode
  exact u.apply_pos hwidth hheight

theorem exists_encodeWithin {p : Pixels Pixel}
    (hquality : 0 ≤ profile.quality ∧ profile.quality ≤ 100) (hpos : 0 < p.width ∧ 0 < p.height)
    (hw : p.width ≤ 16383) (hh : p.height ≤ 16383) :
    ∃ data, codec.encodeWithin p profile.quality = .ok data := by
  obtain ⟨data, hdata⟩ := hlawful.accepts p profile.quality hquality ⟨hpos.1, hw⟩ ⟨hpos.2, hh⟩
  exact ⟨data, encodeWithin_eq_ok_iff.mpr ⟨hw, hh, hdata⟩⟩

theorem sanitize_endsAt (hquality : 0 ≤ profile.quality ∧ profile.quality ≤ 100)
    {image : Image Pixel} {width height : Nat} (hdecode : codec.decode raw = .ok image)
    (hshown : codec.shownSize raw image.width image.height = (width, height)) :
    (codec.sanitize raw profile).EndsAt (profile.targetSize width height) := by
  obtain ⟨p, hp, rfl, rfl⟩ := readPixels_of_decode hdecode hshown
  have hpos := profile.targetSize_pos (hlawful.pos_of_readPixels hp).1
    (hlawful.pos_of_readPixels hp).2
  rw [sanitize_of_readPixels hp]
  rw [← hlawful.resizes.size_fitted p profile] at hpos ⊢
  generalize codec.fitted p profile = q at hpos ⊢
  by_cases hlarge : 16383 < q.width ∨ 16383 < q.height
  · rw [encodeWithin_of_lt hlarge]
    refine ⟨fun hw hh => ?_, fun e => ?_⟩
    · exact absurd hlarge (by omega)
    · simp only [Pass.failure.injEq, hlarge, and_true]
      exact eq_comm
  · rw [not_or, Nat.not_lt, Nat.not_lt] at hlarge
    obtain ⟨data, hdata⟩ := hlawful.exists_encodeWithin hquality hpos hlarge.1 hlarge.2
    rw [hdata]
    refine ⟨fun _ _ => ⟨data, rfl⟩, fun e => ⟨nofun, ?_⟩⟩
    rintro ⟨-, hlarge'⟩
    exact absurd hlarge' (by omega)

theorem thumbnail_of_full {full : Rendition} (h : codec.sanitize raw .full = .rendition full) :
    ∃ thumbnail, codec.sanitize raw .thumbnail = .rendition thumbnail ∧
      (thumbnail.width, thumbnail.height) = fitWithin full.width full.height 640 := by
  cases hdecode : codec.decode raw with
  | error cause => cases h.symm.trans (sanitize_eq_undecodable_iff.mpr hdecode)
  | ok image =>
      rcases hshown : codec.shownSize raw image.width image.height with ⟨width, height⟩
      obtain ⟨hsize, -⟩ :=
        (hlawful.sanitize_endsAt (by decide) hdecode hshown).of_rendition h
      obtain ⟨rfl, rfl⟩ := Prod.mk.inj hsize
      have hends : (codec.sanitize raw .thumbnail).EndsAt (fitWithin full.width full.height 640) :=
        hlawful.sanitize_endsAt (by decide) hdecode hshown
      have hlimit : max 640 1 ≤ 16383 := by decide
      obtain ⟨hw, hh⟩ := fitWithin_le full.width full.height 640
      obtain ⟨data, hdata⟩ := hends.rendition (hw.trans hlimit) (hh.trans hlimit)
      exact ⟨_, hdata, rfl⟩

theorem pair_of_full {full : Rendition} (h : codec.sanitize raw .full = .rendition full) :
    ∃ pair, twoPasses codec.sanitize raw = some pair := by
  obtain ⟨thumbnail, hthumbnail, -⟩ := hlawful.thumbnail_of_full h
  exact ⟨⟨full, thumbnail⟩, twoPasses_eq_some_iff.mpr ⟨h, hthumbnail⟩⟩

/-- How a pass ends for any upload and any profile that is valid: whether the upload can be decoded
decides it and the size that the rendition would have, which is that of the image as it is shown,
made to fit. The thumbnail cannot fail where the full image did not. -/
theorem passes_end_by_size (raw : ByteArray) :
    (∀ profile : Profile, 0 ≤ profile.quality ∧ profile.quality ≤ 100 →
      (∀ cause, codec.sanitize raw profile = .failure (.undecodable cause) ↔
        codec.decode raw = .error cause) ∧
      ∀ image width height, codec.decode raw = .ok image →
        codec.shownSize raw image.width image.height = (width, height) →
        (profile.maxSide = none → (codec.sanitize raw profile).EndsAt (width, height)) ∧
        ∀ limit, profile.maxSide = some limit →
          (codec.sanitize raw profile).EndsAt (fitWithin width height limit)) ∧
    (∀ full, codec.sanitize raw .full = .rendition full →
      ∃ thumbnail, codec.sanitize raw .thumbnail = .rendition thumbnail ∧
        (thumbnail.width, thumbnail.height) = fitWithin full.width full.height 640) ∧
    ((∃ pair, twoPasses codec.sanitize raw = some pair) ↔
      ∃ full, codec.sanitize raw .full = .rendition full) := by
  refine ⟨fun profile hquality => ⟨fun _ => sanitize_eq_undecodable_iff, ?_⟩,
    fun full => hlawful.thumbnail_of_full, ?_, ?_⟩
  · intro image width height hdecode hshown
    have hends := hlawful.sanitize_endsAt hquality hdecode hshown
    refine ⟨fun hmax => ?_, fun limit hmax => ?_⟩
    · rwa [Profile.targetSize, hmax] at hends
    · rwa [Profile.targetSize, hmax] at hends
  · rintro ⟨pair, hpair⟩
    exact ⟨pair.full, (twoPasses_eq_some_iff.mp hpair).1⟩
  · rintro ⟨full, hfull⟩
    exact hlawful.pair_of_full hfull

end Lawful

end Codec

namespace Sample

theorem resizes_codec : codec.Resizes := fun _ _ _ _ => ⟨rfl, rfl⟩

theorem decode_lyingPng : codec.decode lyingPng = .ok ⟨.rgb8, redAndBlue⟩ := by
  simp only [codec, ↓reduceIte]

theorem recordedTag?_lyingPng : codec.recordedTag? lyingPng = some 6 := by
  simp only [codec, ↓reduceIte]

theorem shownSize_lyingPng : codec.shownSize lyingPng 2 1 = (1, 2) := by
  rw [Codec.shownSize, recordedTag?_lyingPng]
  rfl

theorem lawful_codec : codec.Lawful where
  filled file image h := by
    dsimp only [codec] at h
    split at h
    · obtain rfl := Except.ok.inj h
      exact ⟨by decide, by decide⟩
    · split at h
      · obtain rfl := Except.ok.inj h
        exact ⟨by decide, by decide⟩
      · cases h
  resizes := resizes_codec
  accepts p quality hquality hw hh := by
    have hpicture : Picture.ofRaster? p.raster = some ⟨p.raster, hw.1, hh.1⟩ :=
      dif_pos ⟨hw.1, hh.1⟩
    have hencode : Builtin.encode p quality = .ok (Webp.encode ⟨p.raster, hw.1, hh.1⟩) := by
      rw [Builtin.encode, if_neg (not_not.mpr hquality), hpicture]
    exact ⟨_, hencode⟩

end Sample

namespace Codec

theorem Lawful.passes_end_by_size_lying :
    Sample.codec.Lawful ∧
      ∃ full thumbnail, Sample.codec.renderPair? Sample.lyingPng = some ⟨full, thumbnail⟩ ∧
        (full.width, full.height) = (1, 2) ∧ (thumbnail.width, thumbnail.height) = (1, 2) := by
  obtain ⟨hpasses, hthumbnails, -⟩ := Sample.lawful_codec.passes_end_by_size Sample.lyingPng
  have hquality : 0 ≤ Profile.full.quality ∧ Profile.full.quality ≤ 100 := by decide
  have hends :=
    ((hpasses .full hquality).2 _ 1 2 Sample.decode_lyingPng Sample.shownSize_lyingPng).1 rfl
  obtain ⟨data, hfull⟩ := hends.rendition (by decide) (by decide)
  obtain ⟨thumbnail, hthumbnail, hsize⟩ := hthumbnails _ hfull
  refine ⟨Sample.lawful_codec, ⟨data, 1, 2⟩, thumbnail, ?_, rfl, hsize⟩
  rw [Codec.renderPair?_eq_twoPasses]
  exact twoPasses_eq_some_iff.mpr ⟨hfull, hthumbnail⟩

end Codec

end ImageIntake
