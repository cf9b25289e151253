import ImageIntake.Webp.Lossy.Prediction

namespace ImageIntake.Webp.Lossy

structure Limits where
  edge : Int
  inner : Int
  contrast : Int

structure Strength where
  level : Nat
  limits : Limits
  isInner : Bool

namespace Strength

def innerLimit (sharpness level : Nat) : Nat :=
  let shifted := if 4 < sharpness then level / 4 else if 0 < sharpness then level / 2 else level
  max 1 (if 0 < sharpness then min shifted (9 - sharpness) else shifted)

def ofBlock (h : Header) (block : BlockHeader) (r : Residual) : Strength :=
  let isSmall := block.luma.isNone
  let own := h.settingOf block.segment Segment.smoothing h.smoothing + h.smoothingOffsets.1
  let level := (min 63 (max 0 (if isSmall then own + h.smoothingOffsets.2 else own))).toNat
  let inner := innerLimit h.sharpness level
  ⟨level, ⟨2 * level + inner, inner, if 40 ≤ level then 2 else if 15 ≤ level then 1 else 0⟩,
    isSmall || r.hasDifferences⟩

end Strength

def clampSigned (x : Int) : Int := min 127 (max (-128) x)

def clampSmall (x : Int) : Int := min 15 (max (-16) x)

@[inline] def getSample (b : ByteArray) (i : Nat) : Int := (b.get! i).toNat

@[inline] def setSample (b : ByteArray) (i : Nat) (x : Int) : ByteArray :=
  b.set! i (clampSample x).toNat.toUInt8

@[inline] def differ (b : ByteArray) (i j : Nat) : Int :=
  (getSample b i - getSample b j).natAbs

def isNear (b : ByteArray) (i step : Nat) (limit : Int) : Bool :=
  4 * differ b (i - step) i + differ b (i - 2 * step) (i + step) ≤ limit

def isEven (b : ByteArray) (i step : Nat) (limit : Int) : Bool :=
  differ b (i - 4 * step) (i - 3 * step) ≤ limit && differ b (i - 3 * step) (i - 2 * step) ≤ limit &&
    differ b (i - 2 * step) (i - step) ≤ limit && differ b (i + 3 * step) (i + 2 * step) ≤ limit &&
    differ b (i + 2 * step) (i + step) ≤ limit && differ b (i + step) i ≤ limit

def hasContrast (b : ByteArray) (i step : Nat) (limit : Int) : Bool :=
  limit < differ b (i - 2 * step) (i - step) || limit < differ b (i + step) i

def smoothTwo (b : ByteArray) (i step : Nat) : ByteArray :=
  let p := getSample b (i - step)
  let q := getSample b i
  let a := 3 * (q - p) + clampSigned (getSample b (i - 2 * step) - getSample b (i + step))
  let b := setSample b (i - step) (p + clampSmall ((a + 3) / 8))
  setSample b i (q - clampSmall ((a + 4) / 8))

def smoothFour (b : ByteArray) (i step : Nat) : ByteArray :=
  let p := getSample b (i - step)
  let q := getSample b i
  let a := 3 * (q - p)
  let near := clampSmall ((a + 4) / 8)
  let far := (near + 1) / 2
  let b := setSample b (i - 2 * step) (getSample b (i - 2 * step) + far)
  let b := setSample b (i + step) (getSample b (i + step) - far)
  let b := setSample b (i - step) (p + clampSmall ((a + 3) / 8))
  setSample b i (q - near)

def smoothSix (b : ByteArray) (i step : Nat) : ByteArray :=
  let p := getSample b (i - step)
  let q := getSample b i
  let a := clampSigned (3 * (q - p) +
    clampSigned (getSample b (i - 2 * step) - getSample b (i + step)))
  let near := (27 * a + 63) / 128
  let middle := (18 * a + 63) / 128
  let far := (9 * a + 63) / 128
  let b := setSample b (i - 3 * step) (getSample b (i - 3 * step) + far)
  let b := setSample b (i - 2 * step) (getSample b (i - 2 * step) + middle)
  let b := setSample b (i - step) (p + near)
  let b := setSample b (i + 2 * step) (getSample b (i + 2 * step) - far)
  let b := setSample b (i + step) (getSample b (i + step) - middle)
  setSample b i (q - near)

structure Edge where
  start : Nat
  across : Nat
  along : Nat
  length : Nat

def smoothSimply (limit : Int) (b : ByteArray) (e : Edge) : ByteArray :=
  e.length.fold (fun k _ b =>
    let i := e.start + k * e.along
    if isNear b i e.across (2 * limit + 1) then smoothTwo b i e.across else b) b

def smoothFully (isOuter : Bool) (limits : Limits) (b : ByteArray) (e : Edge) : ByteArray :=
  let limit := if isOuter then limits.edge + 4 else limits.edge
  e.length.fold (fun k _ b =>
    let i := e.start + k * e.along
    if !(isNear b i e.across (2 * limit + 1) && isEven b i e.across limits.inner) then b
    else if hasContrast b i e.across limits.contrast then smoothTwo b i e.across
    else if isOuter then smoothSix b i e.across
    else smoothFour b i e.across) b

def Plane.smoothBlock (p : Plane) (smooth : (isOuter : Bool) → ByteArray → Edge → ByteArray)
    (isInner : Bool) (side column row : Nat) : Plane :=
  let ⟨width, b⟩ := p
  let start := row * side * width + column * side
  let inner (edgeAt : Nat → Edge) (b : ByteArray) :=
    if isInner then (side / 4 - 1).fold (fun k _ b => smooth false b (edgeAt (4 * (k + 1)))) b else b
  let upright (k : Nat) : Edge := ⟨start + k, 1, width, side⟩
  let level (k : Nat) : Edge := ⟨start + k * width, width, 1, side⟩
  let b := if column = 0 then b else smooth true b (upright 0)
  let b := inner upright b
  let b := if row = 0 then b else smooth true b (level 0)
  ⟨width, inner level b⟩

def Planes.smoothBlock (p : Planes) (h : Header) (s : Strength) (column row : Nat) : Planes :=
  if s.level = 0 then p
  else
    let ⟨luma, blue, red⟩ := p
    if h.hasSimpleSmoothing then
      let smooth (isOuter : Bool) :=
        smoothSimply (if isOuter then s.limits.edge + 4 else s.limits.edge)
      ⟨luma.smoothBlock smooth s.isInner 16 column row, blue, red⟩
    else
      let smooth (isOuter : Bool) := smoothFully isOuter s.limits
      ⟨luma.smoothBlock smooth s.isInner 16 column row,
        blue.smoothBlock smooth s.isInner 8 column row,
        red.smoothBlock smooth s.isInner 8 column row⟩

def Planes.smooth (p : Planes) (h : Header) (columns : Nat) (blocks : Array BlockHeader)
    (residuals : Array Residual) : Planes :=
  if h.smoothing = 0 then p
  else
    blocks.size.fold (fun i _ p =>
      let strength := Strength.ofBlock h (blocks.getD i default) (residuals.getD i default)
      p.smoothBlock h strength (i % columns) (i / columns)) p

end ImageIntake.Webp.Lossy
