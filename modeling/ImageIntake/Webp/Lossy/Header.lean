import ImageIntake.Webp.Lossy.BoolReader
import ImageIntake.Webp.Lossy.Constants

namespace ImageIntake.Webp.Lossy

structure Segment where
  quality : Int
  smoothing : Int

structure Segmentation where
  isAbsolute : Bool
  segments : Array Segment
  mapProbabilities : Option (Array UInt32)

structure QualityOffsets where
  lumaMean : Int
  secondMean : Int
  secondDetail : Int
  chromaMean : Int
  chromaDetail : Int

structure Header where
  segmentation : Option Segmentation
  hasSimpleSmoothing : Bool
  smoothing : Nat
  sharpness : Nat
  smoothingOffsets : Int × Int
  partitionCount : Nat
  quality : Nat
  offsets : QualityOffsets
  probabilities : ByteArray
  filledProbability : Option UInt32

namespace Header

open Reader

def readList {α : Type} (count : Nat) (read : Reader α) : Reader (Array α) :=
  count.foldM (fun _ _ values => return values.push (← read)) #[]

def readSegments : Reader (Bool × Array Segment) := do
  let isAbsolute ← flag
  let qualities ← readList 4 (optional (signed 7) 0)
  let smoothings ← readList 4 (optional (signed 6) 0)
  return (isAbsolute, qualities.zipWith Segment.mk smoothings)

def readSegmentation : Reader Segmentation := do
  let hasMap ← flag
  let hasData ← flag
  let (isAbsolute, segments) ← if hasData then readSegments else
    pure (true, Array.replicate 4 (Segment.mk 0 0))
  let map ← if hasMap then do
      pure (some ((← readList 3 (optional (number 8) 255)).map Nat.toUInt32))
    else pure none
  return ⟨isAbsolute, segments, map⟩

def readSmoothingOffsets : Reader (Int × Int) := do
  if ← flag then
    if ← flag then
      let byReference ← readList 4 (optional (signed 6) 0)
      let byMode ← readList 4 (optional (signed 6) 0)
      return (byReference.getD 0 0, byMode.getD 0 0)
  return (0, 0)

def readOffsets : Reader QualityOffsets := do
  let offset := optional (signed 4) 0
  return ⟨← offset, ← offset, ← offset, ← offset, ← offset⟩

def readProbabilities : Reader ByteArray :=
  defaultProbabilities.size.foldM (fun i _ probabilities => do
    if ← decision (changeProbabilities.get! i).toUInt32 then
      return probabilities.set! i (← number 8).toUInt8
    else return probabilities) defaultProbabilities

def read : Reader Header := do
  let _ ← number 2
  let segmentation ← if ← flag then some <$> readSegmentation else pure none
  let hasSimpleSmoothing ← flag
  let smoothing ← number 6
  let sharpness ← number 3
  let smoothingOffsets ← readSmoothingOffsets
  let partitionBits ← number 2
  let quality ← number 7
  let offsets ← readOffsets
  let _ ← flag
  let probabilities ← readProbabilities
  let filledProbability ← if ← flag then (some ·.toUInt32) <$> number 8 else pure none
  return {
    segmentation, hasSimpleSmoothing, smoothing, sharpness, smoothingOffsets,
    partitionCount := 1 <<< partitionBits, quality, offsets, probabilities, filledProbability }

def settingOf (h : Header) (segment : Nat) (own : Segment → Int) (whole : Nat) : Int :=
  match h.segmentation with
  | none => whole
  | some s =>
      let value := own (s.segments.getD segment ⟨0, 0⟩)
      if s.isAbsolute then value else whole + value

end Header

structure Steps where
  lumaMean : Int
  lumaDetail : Int
  secondMean : Int
  secondDetail : Int
  chromaMean : Int
  chromaDetail : Int

def stepOf (steps : Array Int) (limit : Int) (quality : Int) : Int :=
  steps.getD (min limit quality).toNat 0

def Header.stepsOf (h : Header) (segment : Nat) : Steps :=
  let quality := h.settingOf segment Segment.quality h.quality
  { lumaMean := stepOf meanSteps 127 (quality + h.offsets.lumaMean)
    lumaDetail := stepOf detailSteps 127 quality
    secondMean := 2 * stepOf meanSteps 127 (quality + h.offsets.secondMean)
    secondDetail := max 8 (stepOf detailSteps 127 (quality + h.offsets.secondDetail) * 155 / 100)
    chromaMean := stepOf meanSteps 117 (quality + h.offsets.chromaMean)
    chromaDetail := stepOf detailSteps 127 (quality + h.offsets.chromaDetail) }

end ImageIntake.Webp.Lossy
