import ImageIntake.Number.Rounding

namespace ImageIntake

open Number

def scaledSide (factor : BinaryFraction) (limit side : Nat) : Nat :=
  min limit (max 1 (product side factor).round)

def fitWithin (width height limit : Nat) : Nat × Nat :=
  let limit := max limit 1
  let longest := max width height
  if longest ≤ limit then (width, height)
  else
    let factor := quotient limit longest
    (scaledSide factor limit width, scaledSide factor limit height)

theorem scaledSide_pos {factor : BinaryFraction} {limit side : Nat} (h : 0 < limit) :
    0 < scaledSide factor limit side := by
  unfold scaledSide
  omega

theorem fitWithin_pos {width height limit : Nat} (hw : 0 < width) (hh : 0 < height) :
    0 < (fitWithin width height limit).1 ∧ 0 < (fitWithin width height limit).2 := by
  unfold fitWithin
  dsimp only
  split
  · exact ⟨hw, hh⟩
  · exact ⟨scaledSide_pos (by omega), scaledSide_pos (by omega)⟩

end ImageIntake
