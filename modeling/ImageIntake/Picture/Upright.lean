import ImageIntake.Picture.Raster

namespace ImageIntake

inductive Turn where
  | none
  | quarter
  | half
  | threeQuarters
  deriving DecidableEq, Repr

def Turn.quarters : Turn → Nat
  | .none => 0
  | .quarter => 1
  | .half => 2
  | .threeQuarters => 3

structure Upright where
  turn : Turn
  isFlipped : Bool
  deriving DecidableEq, Repr

namespace Raster

variable {α : Type}

def turnQuarter (r : Raster α) : Raster α :=
  ofFn r.height r.width fun x y hx hy => r.pixelAt y (r.height - 1 - x) hy (by omega)

def turnHalf (r : Raster α) : Raster α :=
  ofFn r.width r.height fun x y hx hy =>
    r.pixelAt (r.width - 1 - x) (r.height - 1 - y) (by omega) (by omega)

def turnThreeQuarters (r : Raster α) : Raster α :=
  ofFn r.height r.width fun x y hx hy => r.pixelAt (r.width - 1 - y) x (by omega) hx

def flip (r : Raster α) : Raster α :=
  ofFn r.width r.height fun x y hx hy => r.pixelAt (r.width - 1 - x) y (by omega) hy

def turn (r : Raster α) : Turn → Raster α
  | .none => r
  | .quarter => r.turnQuarter
  | .half => r.turnHalf
  | .threeQuarters => r.turnThreeQuarters

end Raster

namespace Upright

def identity : Upright := ⟨.none, false⟩

def ofTag? : Nat → Option Upright
  | 1 => some ⟨.none, false⟩
  | 2 => some ⟨.none, true⟩
  | 3 => some ⟨.half, false⟩
  | 4 => some ⟨.half, true⟩
  | 5 => some ⟨.quarter, true⟩
  | 6 => some ⟨.quarter, false⟩
  | 7 => some ⟨.threeQuarters, true⟩
  | 8 => some ⟨.threeQuarters, false⟩
  | _ => none

def apply {α : Type} (u : Upright) (r : Raster α) : Raster α :=
  if u.isFlipped then (r.turn u.turn).flip else r.turn u.turn

theorem apply_pos {α : Type} (u : Upright) {r : Raster α} (hw : 0 < r.width)
    (hh : 0 < r.height) : 0 < (u.apply r).width ∧ 0 < (u.apply r).height := by
  obtain ⟨turn, isFlipped⟩ := u
  cases turn <;> cases isFlipped <;> exact ⟨by assumption, by assumption⟩

def describe (u : Upright) : String :=
  "Upright \x7b quarter_turns: " ++ toString u.turn.quarters ++ ", mirror: " ++ toString u.isFlipped ++
    " \x7d"

end Upright

end ImageIntake
