import ImageIntake.Webp.Lossy.Residual

namespace ImageIntake.Webp.Lossy

structure Plane where
  width : Nat
  samples : ByteArray

namespace Plane

def blank (width height : Nat) : Plane := ⟨width, ⟨Array.replicate (width * height) 0⟩⟩

def sampleAt (p : Plane) (x y : Int) : Int :=
  if y < 0 then 127 else if x < 0 then 129
  else (p.samples.get! (y.toNat * p.width + x.toNat)).toNat

def fill (p : Plane) (x y side : Nat) (f : Nat → Nat → Int) : Plane :=
  let ⟨width, samples⟩ := p
  ⟨width, (side * side).fold (fun i _ samples =>
    samples.set! ((y + i / side) * width + x + i % side) (f (i % side) (i / side)).toNat.toUInt8)
    samples⟩

end Plane

def clampSample (x : Int) : Int := min 255 (max 0 x)

structure Border where
  above : Array Int
  left : Array Int
  corner : Int
  mean : Int

namespace Border

def meanOf (above left : Array Int) (hasAbove hasLeft : Bool) : Int :=
  let sum (samples : Array Int) := samples.foldl (· + ·) 0
  let side : Int := above.size
  match hasAbove, hasLeft with
  | true, true => (sum above + sum left + side) / (2 * side)
  | true, false => (sum above + side / 2) / side
  | false, true => (sum left + side / 2) / side
  | false, false => 128

def ofPlane (p : Plane) (x y side : Nat) : Border :=
  let above := Array.ofFn fun i : Fin side => p.sampleAt (x + i.val) (y - 1)
  let left := Array.ofFn fun i : Fin side => p.sampleAt (x - 1) (y + i.val)
  ⟨above, left, p.sampleAt (x - 1) (y - 1), meanOf above left (y != 0) (x != 0)⟩

end Border

def BlockMode.predict (mode : BlockMode) (b : Border) (x y : Nat) : Int :=
  match mode with
  | .mean => b.mean
  | .above => b.above.getD x 0
  | .left => b.left.getD y 0
  | .gradient => clampSample (b.left.getD y 0 + b.above.getD x 0 - b.corner)

structure Rim where
  samples : Array Int

namespace Rim

def sample (r : Rim) (i : Nat) : Int := r.samples.getD (i + 1) 0

def pair (r : Rim) (i : Nat) : Int := (r.sample i + r.sample (i + 1) + 1) / 2

def smooth (r : Rim) (i : Nat) : Int :=
  (r.samples.getD i 0 + 2 * r.sample i + r.sample (i + 1) + 2) / 4

def mean (r : Rim) : Int :=
  (Nat.fold 4 (fun i _ sum => sum + r.sample i + r.sample (5 + i)) 4) / 8

end Rim

def SmallMode.predict (mode : SmallMode) (r : Rim) (x y : Nat) : Int :=
  match mode with
  | .mean => r.mean
  | .gradient => clampSample (r.sample (3 - y) + r.sample (5 + x) - r.sample 4)
  | .above => r.smooth (5 + x)
  | .left => r.smooth (3 - y)
  | .downRight => r.smooth (4 + x - y)
  | .downLeft => r.smooth (6 + x + y)
  | .aboveRight =>
      if x < y / 2 then r.smooth (5 - y)
      else if y % 2 = 0 then r.pair (4 + (x - y / 2))
      else r.smooth (4 + (x - y / 2))
  | .leftDown =>
      if y < x / 2 then r.smooth (3 + x)
      else if x % 2 = 0 then r.pair (3 - (y - x / 2))
      else r.smooth (4 - (y - x / 2))
  | .aboveLeft =>
      if x = 3 ∧ 2 ≤ y then r.smooth (8 + y)
      else if y % 2 = 0 then r.pair (5 + x + y / 2)
      else r.smooth (6 + x + y / 2)
  | .leftUp =>
      let k := x + 2 * y
      if 5 < k then r.sample 0
      else if k % 2 = 0 then r.pair (2 - k / 2)
      else r.smooth (2 - k / 2)

def scaleUp (x : Int) : Int := x * 20091 / 65536 + x

def scaleDown (x : Int) : Int := x * 35468 / 65536

def undoLine (a b c d : Int) (k : Nat) : Int :=
  match k with
  | 0 => a + c + (scaleUp b + scaleDown d)
  | 1 => a - c + (scaleDown b - scaleUp d)
  | 2 => a - c - (scaleDown b - scaleUp d)
  | _ => a + c - (scaleUp b + scaleDown d)

def undoTransform (c : Array Int) : Array Int :=
  let columns := Array.ofFn fun i : Fin 16 =>
    let column := i.val % 4
    undoLine (c.getD column 0) (c.getD (4 + column) 0) (c.getD (8 + column) 0)
      (c.getD (12 + column) 0) (i.val / 4)
  Array.ofFn fun i : Fin 16 =>
    let row := i.val / 4 * 4
    (undoLine (columns.getD row 0 + 4) (columns.getD (row + 1) 0) (columns.getD (row + 2) 0)
      (columns.getD (row + 3) 0) (i.val % 4)) / 8

namespace Plane

def addSmall (p : Plane) (x y : Nat) (coefficients : Array Int) : Plane :=
  if coefficients.isEmpty then p
  else
    let differences := undoTransform coefficients
    let ⟨width, samples⟩ := p
    ⟨width, Nat.fold 16 (fun i _ (samples : ByteArray) =>
      let place := (y + i / 4) * width + x + i % 4
      let sample : Int := (samples.get! place).toNat + differences.getD i 0
      samples.set! place (clampSample sample).toNat.toUInt8) samples⟩

def restoreSquare (p : Plane) (mode : BlockMode) (x y side start : Nat) (r : Residual) : Plane :=
  let border := Border.ofPlane p x y (4 * side)
  let p := p.fill x y (4 * side) (mode.predict border)
  (side * side).fold (fun i _ p =>
    p.addSmall (x + 4 * (i % side)) (y + 4 * (i / side)) (r.small.getD (start + i) #[])) p

def rim (p : Plane) (x y i : Nat) : Rim :=
  let x' := x + 4 * (i % 4)
  let y' := y + 4 * (i / 4)
  let rightRow := if i % 4 = 3 then y else y'
  let left (k : Nat) := p.sampleAt (x' - 1) (y' + k)
  let right (k : Nat) : Int := p.sampleAt (min (x' + k) (p.width - 1)) (rightRow - 1)
  let above (k : Nat) := if k < 4 then p.sampleAt (x' + k) (y' - 1) else right k
  ⟨#[left 3, left 3, left 2, left 1, left 0, p.sampleAt (x' - 1) (y' - 1), above 0, above 1,
    above 2, above 3, above 4, above 5, above 6, above 7, above 7]⟩

def restoreSmalls (p : Plane) (modes : Array SmallMode) (x y : Nat) (r : Residual) : Plane :=
  Nat.fold 16 (fun i _ p =>
    let x' := x + 4 * (i % 4)
    let y' := y + 4 * (i / 4)
    let rim := p.rim x y i
    (p.fill x' y' 4 ((modes.getD i .mean).predict rim)).addSmall x' y' (r.small.getD i #[])) p

end Plane

structure Planes where
  luma : Plane
  blue : Plane
  red : Plane

namespace Planes

def blank (columns rows : Nat) : Planes :=
  let chroma := Plane.blank (8 * columns) (8 * rows)
  ⟨.blank (16 * columns) (16 * rows), chroma, chroma⟩

def restoreBlock (p : Planes) (column row : Nat) (block : BlockHeader) (r : Residual) : Planes :=
  let ⟨luma, blue, red⟩ := p
  let (x, y) := (16 * column, 16 * row)
  ⟨match block.luma with
    | none => luma.restoreSmalls block.small x y r
    | some mode => luma.restoreSquare mode x y 4 0 r,
    blue.restoreSquare block.chroma (8 * column) (8 * row) 2 16 r,
    red.restoreSquare block.chroma (8 * column) (8 * row) 2 20 r⟩

def restore (columns rows : Nat) (blocks : Array BlockHeader) (residuals : Array Residual) :
    Planes :=
  blocks.size.fold (fun i _ p =>
    p.restoreBlock (i % columns) (i / columns) (blocks.getD i default) (residuals.getD i default))
    (blank columns rows)

end Planes

end ImageIntake.Webp.Lossy
