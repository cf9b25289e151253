import ImageIntake.Webp.Lossless.Coding

namespace ImageIntake.Webp.Lossless

inductive Transform where
  | predict (blockBits : Nat) (modes : Array UInt32)
  | decorrelate (blockBits : Nat) (factors : Array UInt32)
  | subtractGreen
  | table (colours : Array UInt32) (packing : Nat)

@[inline] def add (a b : UInt32) : UInt32 :=
  (((a &&& 0xff00ff00) + (b &&& 0xff00ff00)) &&& 0xff00ff00) |||
    (((a &&& 0x00ff00ff) + (b &&& 0x00ff00ff)) &&& 0x00ff00ff)

@[inline] def mean (a b : UInt32) : UInt32 := (((a ^^^ b) &&& 0xfefefefe) >>> 1) + (a &&& b)

@[inline] def sample (pixel shift : UInt32) : Int := ((pixel >>> shift) &&& 0xff).toNat

@[inline] def clampSamples (f : UInt32 → Int) : UInt32 :=
  let sampleOf (shift : UInt32) : UInt32 := (min 255 (f shift).toNat).toUInt32 <<< shift
  sampleOf 24 ||| sampleOf 16 ||| sampleOf 8 ||| sampleOf 0

def distance (a b : UInt32) : Nat :=
  let difference (shift : UInt32) : Nat := (sample a shift - sample b shift).natAbs
  difference 24 + difference 16 + difference 8 + difference 0

def select (left top corner : UInt32) : UInt32 :=
  if distance top corner < distance left corner then left else top

def addSubtract (left top corner : UInt32) : UInt32 :=
  clampSamples fun shift => sample left shift + sample top shift - sample corner shift

def addHalfDifference (a b : UInt32) : UInt32 :=
  clampSamples fun shift => sample a shift + (sample a shift - sample b shift).tdiv 2

def black : UInt32 := 0xff000000

def guess (mode : Nat) (left top right corner : UInt32) : UInt32 :=
  match mode with
  | 1 => left
  | 2 => top
  | 3 => right
  | 4 => corner
  | 5 => mean (mean left right) top
  | 6 => mean left corner
  | 7 => mean left top
  | 8 => mean corner top
  | 9 => mean top right
  | 10 => mean (mean left corner) (mean top right)
  | 11 => select left top corner
  | 12 => addSubtract left top corner
  | 13 => addHalfDifference (mean left top) corner
  | _ => black

@[inline] def blockWord (width blockBits : Nat) (words : Array UInt32) (x y : Nat) : UInt32 :=
  words.getD (y >>> blockBits * Coding.blocks width blockBits + x >>> blockBits) 0

def undoPredict (width blockBits : Nat) (modes pixels : Array UInt32) : Array UInt32 :=
  pixels.foldl (fun out pixel =>
    let i := out.size
    let x := i % width
    let y := i / width
    let left := out.getD (i - 1) black
    let top := out.getD (i - width) black
    let base :=
      if y = 0 then if x = 0 then black else left
      else if x = 0 then top
      else
        let mode := ((blockWord width blockBits modes x y >>> 8) &&& 15).toNat
        guess mode left top (out.getD (i - width + 1) black) (out.getD (i - width - 1) black)
    out.push (add pixel base)) (.emptyWithCapacity pixels.size)

@[inline] def signed (sample : UInt32) : Int :=
  let n := (sample &&& 0xff).toNat
  if n < 128 then n else n - 256

@[inline] def share (factor sample : UInt32) : UInt32 :=
  ((signed factor * signed sample / 32) % 256).toNat.toUInt32

def correlate (word pixel : UInt32) : UInt32 :=
  let green := pixel >>> 8
  let red := ((pixel >>> 16) + share word green) &&& 0xff
  let blue := (pixel + share (word >>> 8) green + share (word >>> 16) red) &&& 0xff
  (pixel &&& (0xff00ff00 : UInt32)) ||| red <<< 16 ||| blue

def undoDecorrelate (width blockBits : Nat) (factors pixels : Array UInt32) : Array UInt32 :=
  pixels.mapIdx fun i pixel =>
    correlate (blockWord width blockBits factors (i % width) (i / width)) pixel

def undoSubtractGreen (pixels : Array UInt32) : Array UInt32 :=
  pixels.map fun (pixel : UInt32) =>
    let green := (pixel >>> 8) &&& 0xff
    add pixel (green <<< 16 ||| green)

def undoTable (width height : Nat) (colours : Array UInt32) (packing : Nat)
    (pixels : Array UInt32) : Array UInt32 :=
  let indexBits := 8 >>> packing
  let packedWidth := Coding.blocks width packing
  Array.ofFn fun i : Fin (width * height) =>
    let x := i % width
    let word := pixels.getD (i / width * packedWidth + x >>> packing) 0
    let index := ((word >>> 8) &&& 0xff) >>> (indexBits * (x % 1 <<< packing)).toUInt32
    colours.getD (index &&& ((1 : UInt32) <<< indexBits.toUInt32 - 1)).toNat 0

structure Step where
  transform : Transform
  width : Nat

def Step.undo (s : Step) (height : Nat) (pixels : Array UInt32) : Array UInt32 :=
  match s.transform with
  | .predict blockBits modes => undoPredict s.width blockBits modes pixels
  | .decorrelate blockBits factors => undoDecorrelate s.width blockBits factors pixels
  | .subtractGreen => undoSubtractGreen pixels
  | .table colours packing => undoTable s.width height colours packing pixels

def packingFor (colours : Nat) : Nat :=
  if colours ≤ 2 then 3 else if colours ≤ 4 then 2 else if colours ≤ 16 then 1 else 0

def sums (differences : Array UInt32) : Array UInt32 :=
  (differences.foldl (fun (out, last) d => (out.push (add last d), add last d))
    ((#[] : Array UInt32), (0 : UInt32))).1

def readTransform (b : ByteArray) (place kind width height : Nat) :
    Option (Found (Transform × Nat)) := do
  match kind with
  | 2 => return ⟨(.subtractGreen, width), place⟩
  | 3 =>
      let count := 1 + (← bits? b place 8)
      let ⟨differences, place⟩ ← readUniform b (place + 8) count 1
      let packing := packingFor count
      return ⟨(.table (sums differences) packing, Coding.blocks width packing), place⟩
  | kind =>
      let blockBits := 2 + (← bits? b place 3)
      let ⟨words, place⟩ ←
        readUniform b (place + 3) (Coding.blocks width blockBits) (Coding.blocks height blockBits)
      let transform := if kind = 0 then Transform.predict blockBits words
        else Transform.decorrelate blockBits words
      return ⟨(transform, width), place⟩

def readSteps (b : ByteArray) (height : Nat) :
    Nat → List Nat → Nat → Nat → List Step → Option (Found (List Step × Nat))
  | 0, _, _, _, _ => none
  | fuel + 1, seen, place, width, steps => do
      if (← bits? b place 1) = 0 then return ⟨(steps, width), place + 1⟩
      let kind ← bits? b (place + 1) 2
      guard (!seen.contains kind)
      let ⟨(transform, left), place⟩ ← readTransform b (place + 3) kind width height
      readSteps b height fuel (kind :: seen) place left (⟨transform, width⟩ :: steps)

def readImage (b : ByteArray) (place width height : Nat) : Option (Array UInt32) := do
  let ⟨(steps, left), place⟩ ← readSteps b height 5 [] place width []
  let ⟨pixels, _⟩ ← readBlocked b place left height
  return steps.foldl (fun pixels step => step.undo height pixels) pixels

end ImageIntake.Webp.Lossless
