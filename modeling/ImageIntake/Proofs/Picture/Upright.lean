import ImageIntake.Picture.Upright
import Mathlib.Logic.ExistsUnique
import Mathlib.Tactic.IntervalCases

namespace ImageIntake

namespace Raster

variable {α : Type} {r : Raster α} {x y : Nat}

theorem get?_eq_pixelAt (hx : x < r.width) (hy : y < r.height) :
    r.get? x y = some (r.pixelAt x y hx hy) := dif_pos ⟨hx, hy⟩

theorem get?_ofFn {width height : Nat} {f : (x y : Nat) → x < width → y < height → α}
    (hx : x < width) (hy : y < height) : (ofFn width height f).get? x y = some (f x y hx hy) := by
  rw [get?_eq_pixelAt hx hy, pixelAt_ofFn]

theorem ext_get? {r s : Raster α} (hwidth : r.width = s.width) (hheight : r.height = s.height)
    (h : ∀ x y, x < r.width → y < r.height → r.get? x y = s.get? x y) : r = s := by
  obtain ⟨width, height, pixels, hsize⟩ := r
  obtain ⟨width', height', pixels', hsize'⟩ := s
  dsimp only at hwidth hheight h
  subst hwidth hheight
  have hpixels : pixels = pixels' := by
    refine Array.ext (hsize.trans hsize'.symm) fun i hi hi' => ?_
    have hbound : i < width * height := hsize ▸ hi
    have hpixel := h (i % width) (i / width) (column_lt hbound) (row_lt hbound)
    rw [get?_eq_pixelAt (column_lt hbound) (row_lt hbound),
      get?_eq_pixelAt (column_lt hbound) (row_lt hbound), Option.some.injEq] at hpixel
    simpa only [pixelAt, Nat.div_add_mod'] using hpixel
  subst hpixels
  rfl

theorem get?_turnQuarter (hx : x < r.width) (hy : y < r.height) :
    r.turnQuarter.get? (r.height - 1 - y) x = r.get? x y := by
  have hback : r.height - 1 - (r.height - 1 - y) = y := by omega
  rw [turnQuarter, get?_ofFn (by omega) hx, get?_eq_pixelAt hx hy]
  simp only [hback]

theorem get?_turnHalf (hx : x < r.width) (hy : y < r.height) :
    r.turnHalf.get? (r.width - 1 - x) (r.height - 1 - y) = r.get? x y := by
  have hbackX : r.width - 1 - (r.width - 1 - x) = x := by omega
  have hbackY : r.height - 1 - (r.height - 1 - y) = y := by omega
  rw [turnHalf, get?_ofFn (by omega) (by omega), get?_eq_pixelAt hx hy]
  simp only [hbackX, hbackY]

theorem get?_turnThreeQuarters (hx : x < r.width) (hy : y < r.height) :
    r.turnThreeQuarters.get? y (r.width - 1 - x) = r.get? x y := by
  have hback : r.width - 1 - (r.width - 1 - x) = x := by omega
  rw [turnThreeQuarters, get?_ofFn hy (by omega), get?_eq_pixelAt hx hy]
  simp only [hback]

theorem get?_flip (hx : x < r.width) (hy : y < r.height) :
    r.flip.get? (r.width - 1 - x) y = r.get? x y := by
  have hback : r.width - 1 - (r.width - 1 - x) = x := by omega
  rw [flip, get?_ofFn (by omega) hy, get?_eq_pixelAt hx hy]
  simp only [hback]

theorem get?_flip_of_get? {pixel : Option α} (hx : x < r.width) (hy : y < r.height)
    (h : r.get? (r.width - 1 - x) y = pixel) : r.flip.get? x y = pixel := by
  have hback : r.width - 1 - (r.width - 1 - x) = x := by omega
  have hflip := get?_flip (x := r.width - 1 - x) (by omega) hy
  rwa [hback, h] at hflip

end Raster

namespace Upright

def shownSize (tag width height : Nat) : Nat × Nat :=
  if tag ≤ 4 then (width, height) else (height, width)

def shownAt (tag width height x y : Nat) : Nat × Nat :=
  match tag with
  | 2 => (width - 1 - x, y)
  | 3 => (width - 1 - x, height - 1 - y)
  | 4 => (x, height - 1 - y)
  | 5 => (y, x)
  | 6 => (height - 1 - y, x)
  | 7 => (height - 1 - y, width - 1 - x)
  | 8 => (y, width - 1 - x)
  | _ => (x, y)

def restoring : Nat → Nat
  | 6 => 8
  | 8 => 6
  | tag => tag

def IsTag (tag : Nat) : Prop := 1 ≤ tag ∧ tag ≤ 8

variable {tag width height x y : Nat}

theorem IsTag.restoring (h : IsTag tag) : IsTag (restoring tag) := by
  obtain ⟨hlow, hhigh⟩ := h
  interval_cases tag <;> exact ⟨by decide, by decide⟩

theorem IsTag.restoring_restoring (h : IsTag tag) :
    Upright.restoring (Upright.restoring tag) = tag := by
  obtain ⟨hlow, hhigh⟩ := h
  interval_cases tag <;> rfl

theorem IsTag.shownSize_restoring (h : IsTag tag) (width height : Nat) :
    shownSize (Upright.restoring tag) (shownSize tag width height).1
      (shownSize tag width height).2 = (width, height) := by
  obtain ⟨hlow, hhigh⟩ := h
  interval_cases tag <;> rfl

theorem IsTag.shownAt_lt (h : IsTag tag) (hx : x < width) (hy : y < height) :
    (shownAt tag width height x y).1 < (shownSize tag width height).1 ∧
      (shownAt tag width height x y).2 < (shownSize tag width height).2 := by
  obtain ⟨hlow, hhigh⟩ := h
  interval_cases tag <;> simp [shownAt, shownSize] <;> omega

theorem IsTag.shownAt_restoring (h : IsTag tag) (hx : x < width) (hy : y < height) :
    shownAt (Upright.restoring tag) (shownSize tag width height).1 (shownSize tag width height).2
      (shownAt tag width height x y).1 (shownAt tag width height x y).2 = (x, y) := by
  obtain ⟨hlow, hhigh⟩ := h
  interval_cases tag <;> simp [shownAt, shownSize, Upright.restoring] <;> omega

theorem IsTag.existsUnique_shownAt (h : IsTag tag) {column row : Nat}
    (hcolumn : column < (shownSize tag width height).1)
    (hrow : row < (shownSize tag width height).2) :
    ∃! stored : Nat × Nat, stored.1 < width ∧ stored.2 < height ∧
      shownAt tag width height stored.1 stored.2 = (column, row) := by
  -- the stored pixel is where the restoring value would show the place
  have hplace := h.restoring.shownAt_lt hcolumn hrow
  have hshown := h.restoring.shownAt_restoring hcolumn hrow
  rw [h.restoring_restoring] at hshown
  rw [h.shownSize_restoring width height] at hplace hshown
  refine ⟨_, ⟨hplace.1, hplace.2, hshown⟩, ?_⟩
  rintro ⟨x, y⟩ ⟨hx, hy, hstored⟩
  have hback := h.shownAt_restoring hx hy
  rw [hstored] at hback
  exact hback.symm

theorem IsTag.exists_ofTag? (h : IsTag tag) : ∃ u, ofTag? tag = some u := by
  obtain ⟨hlow, hhigh⟩ := h
  interval_cases tag <;> exact ⟨_, rfl⟩

variable {α : Type} {u : Upright}

theorem width_apply (h : IsTag tag) (hu : ofTag? tag = some u) (r : Raster α) :
    (u.apply r).width = (shownSize tag r.width r.height).1 := by
  obtain ⟨hlow, hhigh⟩ := h
  interval_cases tag <;> cases hu <;> rfl

theorem height_apply (h : IsTag tag) (hu : ofTag? tag = some u) (r : Raster α) :
    (u.apply r).height = (shownSize tag r.width r.height).2 := by
  obtain ⟨hlow, hhigh⟩ := h
  interval_cases tag <;> cases hu <;> rfl

theorem get?_apply (h : IsTag tag) (hu : ofTag? tag = some u) {r : Raster α} (hx : x < r.width)
    (hy : y < r.height) :
    (u.apply r).get? (shownAt tag r.width r.height x y).1 (shownAt tag r.width r.height x y).2 =
      r.get? x y := by
  obtain ⟨hlow, hhigh⟩ := h
  interval_cases tag <;> cases hu
  · rfl
  · exact Raster.get?_flip hx hy
  · exact Raster.get?_turnHalf hx hy
  · have hrow : r.height - 1 - y < r.height := by omega
    exact Raster.get?_flip_of_get? (r := r.turnHalf) hx hrow (Raster.get?_turnHalf hx hy)
  · exact Raster.get?_flip_of_get? (r := r.turnQuarter) hy hx (Raster.get?_turnQuarter hx hy)
  · exact Raster.get?_turnQuarter hx hy
  · have hrow : r.width - 1 - x < r.width := by omega
    exact (Raster.get?_flip (r := r.turnThreeQuarters) hy hrow).trans
      (Raster.get?_turnThreeQuarters hx hy)
  · exact Raster.get?_turnThreeQuarters hx hy

theorem apply_apply_restoring {back : Upright} (h : IsTag tag) (hu : ofTag? tag = some u)
    (hback : ofTag? (restoring tag) = some back) (r : Raster α) : back.apply (u.apply r) = r := by
  have hwidth := width_apply h hu r
  have hheight := height_apply h hu r
  have hwidthBack : (back.apply (u.apply r)).width = r.width := by
    rw [width_apply h.restoring hback, hwidth, hheight, h.shownSize_restoring]
  have hheightBack : (back.apply (u.apply r)).height = r.height := by
    rw [height_apply h.restoring hback, hwidth, hheight, h.shownSize_restoring]
  refine Raster.ext_get? hwidthBack hheightBack fun x y hx hy => ?_
  rw [hwidthBack] at hx
  rw [hheightBack] at hy
  obtain ⟨hcolumn, hrow⟩ := h.shownAt_lt hx hy
  rw [← hwidth] at hcolumn
  rw [← hheight] at hrow
  -- the pixel is followed to where it is shown, and from there back to where it was stored
  have hthere := get?_apply h hu hx hy
  have hagain := get?_apply h.restoring hback hcolumn hrow
  rw [hwidth, hheight, h.shownAt_restoring hx hy] at hagain
  exact hagain.trans hthere

theorem apply_places_each_pixel (h : IsTag tag) (r : Raster α) :
    ∃ u, ofTag? tag = some u ∧
      (u.apply r).width = (shownSize tag r.width r.height).1 ∧
      (u.apply r).height = (shownSize tag r.width r.height).2 ∧
      (∀ x y (hx : x < r.width) (hy : y < r.height),
        (u.apply r).get? (shownAt tag r.width r.height x y).1
          (shownAt tag r.width r.height x y).2 = some (r.pixelAt x y hx hy)) ∧
      (∀ column row, column < (u.apply r).width → row < (u.apply r).height →
        ∃! stored : Nat × Nat, stored.1 < r.width ∧ stored.2 < r.height ∧
          shownAt tag r.width r.height stored.1 stored.2 = (column, row)) ∧
      ∃ back, ofTag? (restoring tag) = some back ∧ back.apply (u.apply r) = r := by
  obtain ⟨u, hu⟩ := h.exists_ofTag?
  obtain ⟨back, hback⟩ := h.restoring.exists_ofTag?
  have hwidth := width_apply h hu r
  have hheight := height_apply h hu r
  refine ⟨u, hu, hwidth, hheight, ?_, ?_, back, hback, apply_apply_restoring h hu hback r⟩
  · intro x y hx hy
    rw [get?_apply h hu hx hy, Raster.get?_eq_pixelAt hx hy]
  · intro column row hcolumn hrow
    rw [hwidth] at hcolumn
    rw [hheight] at hrow
    exact h.existsUnique_shownAt hcolumn hrow

end Upright

def Sample.numbered : Raster Nat := .ofFn 3 2 fun x y _ _ => 3 * y + x + 1

namespace Upright

theorem apply_places_each_pixel_numbered :
    IsTag 7 ∧ ∃ u, ofTag? 7 = some u ∧ (u.apply Sample.numbered).width = 2 ∧
      (u.apply Sample.numbered).get? 0 2 = some 4 ∧
      u.apply (u.apply Sample.numbered) = Sample.numbered := by
  have htag : IsTag 7 := ⟨by decide, by decide⟩
  obtain ⟨u, hu, hwidth, -, hplaces, -, back, hback, hrestored⟩ :=
    apply_places_each_pixel htag Sample.numbered
  have hsame : back = u := Option.some.inj (hback.symm.trans hu)
  rw [hsame] at hrestored
  exact ⟨htag, u, hu, hwidth, hplaces 0 1 (by decide) (by decide), hrestored⟩

end Upright

end ImageIntake
