import ImageIntake.Picture.Basic

namespace ImageIntake

structure Blend where
  red : Float
  green : Float
  blue : Float
  alpha : Float

namespace Blend

def ofRgba (p : Rgba) : Blend := ⟨p.red.toFloat, p.green.toFloat, p.blue.toFloat, p.alpha.toFloat⟩

def sample (x : Float) : UInt8 := (x + 0.5).floor.toUInt8

def toRgba (c : Blend) : Rgba := ⟨sample c.red, sample c.green, sample c.blue, sample c.alpha⟩

end Blend

structure Kernel where
  first : Nat
  weights : FloatArray

namespace Kernel

def pi : Float := 3.141592653589793

def sinc (x : Float) : Float := if x == 0 then 1 else (x * pi).sin / (x * pi)

def lanczos (x : Float) : Float := if x.abs < 3 then sinc x * sinc (x / 3) else 0

def ofPlace (size newSize i : Nat) : Kernel :=
  let ratio := size.toFloat / newSize.toFloat
  let scale := if ratio < 1 then 1 else ratio
  let middle := (i.toFloat + 0.5) * ratio
  let first := min (size - 1) (middle - 3 * scale).floor.toUInt64.toNat
  let stop := min size (max (first + 1) (middle + 3 * scale).ceil.toUInt64.toNat)
  let weight (k : Nat) := lanczos (((first + k).toFloat - (middle - 0.5)) / scale)
  let weights := (stop - first).fold (fun k _ (ws : FloatArray) => ws.push (weight k)) .empty
  let sum := weights.foldl (· + ·) 0
  ⟨first, weights.foldl (fun ws w => ws.push (w / sum)) .empty⟩

def mean (k : Kernel) (colourAt : Nat → Blend) : Blend :=
  let rec sum : Nat → Nat → Float → Float → Float → Float → Blend
    | 0, _, r, g, b, a => ⟨r, g, b, a⟩
    | left + 1, i, r, g, b, a =>
        let c := colourAt (k.first + i)
        let w := k.weights.get! i
        sum left (i + 1) (r + w * c.red) (g + w * c.green) (b + w * c.blue) (a + w * c.alpha)
  sum k.weights.size 0 0 0 0 0

end Kernel

namespace Raster

variable {α β : Type}

def stretchColumns (r : Raster α) (height : Nat) (f : α → Blend) (g : Blend → β) : Raster β :=
  let kernels := Array.ofFn fun y : Fin height => Kernel.ofPlace r.height height y
  ofFn r.width height fun x y _ hy =>
    have : y < kernels.size := by simpa [kernels] using hy
    g (kernels[y].mean fun i =>
      ((r.get? x i).map f).getD ⟨0, 0, 0, 0⟩)

def stretchRows (r : Raster α) (width : Nat) (f : α → Blend) (g : Blend → β) : Raster β :=
  let kernels := Array.ofFn fun x : Fin width => Kernel.ofPlace r.width width x
  ofFn width r.height fun x y hx _ =>
    have : x < kernels.size := by simpa [kernels] using hx
    g (kernels[x].mean fun i =>
      ((r.get? i y).map f).getD ⟨0, 0, 0, 0⟩)

def resize (r : Raster Rgba) (width height : Nat) : Raster Rgba :=
  (r.stretchColumns height Blend.ofRgba id).stretchRows width id Blend.toRgba

end Raster

end ImageIntake
