import ImageIntake.Webp.Lossy.Header

namespace ImageIntake.Webp.Lossy

inductive BlockMode where
  | mean
  | above
  | left
  | gradient
  deriving DecidableEq, Repr, Inhabited

inductive SmallMode where
  | mean
  | gradient
  | above
  | left
  | downRight
  | aboveRight
  | downLeft
  | aboveLeft
  | leftDown
  | leftUp
  deriving DecidableEq, Repr, Inhabited

def SmallMode.index : SmallMode → Nat
  | .mean => 0
  | .gradient => 1
  | .above => 2
  | .left => 3
  | .downRight => 4
  | .aboveRight => 5
  | .downLeft => 6
  | .aboveLeft => 7
  | .leftDown => 8
  | .leftUp => 9

def BlockMode.small : BlockMode → SmallMode
  | .mean => .mean
  | .above => .above
  | .left => .left
  | .gradient => .gradient

structure BlockHeader where
  segment : Nat
  isEmpty : Bool
  luma : Option BlockMode
  small : Array SmallMode
  chroma : BlockMode
  deriving Inhabited

namespace BlockHeader

open Reader

def readSegment (h : Header) : Reader Nat :=
  match h.segmentation.bind Segmentation.mapProbabilities with
  | none => return 0
  | some p => do
      if ← decision (p.getD 0 255) then return 2 + (← bit (p.getD 2 255))
      else bit (p.getD 1 255)

def readLuma : Reader (Option BlockMode) := do
  if !(← decision 145) then return none
  else if ← decision 156 then return some (if ← decision 128 then .gradient else .left)
  else return some (if ← decision 163 then .above else .mean)

def readChroma : Reader BlockMode := do
  if !(← decision 142) then return .mean
  else if !(← decision 114) then return .above
  else return if ← decision 183 then .gradient else .left

def readSmall (aboveMode leftMode : SmallMode) : Reader SmallMode := do
  let start := (aboveMode.index * 10 + leftMode.index) * 9
  let choose (i : Nat) := decision (modeProbabilities.get! (start + i)).toUInt32
  if !(← choose 0) then return .mean
  else if !(← choose 1) then return .gradient
  else if !(← choose 2) then return .above
  else if !(← choose 3) then
    if !(← choose 4) then return .left
    else return if ← choose 5 then .aboveRight else .downRight
  else if !(← choose 6) then return .downLeft
  else if !(← choose 7) then return .aboveLeft
  else return if ← choose 8 then .leftUp else .leftDown

def readSmalls (above left : Option BlockHeader) : Reader (Array SmallMode) :=
  Nat.foldM 16 (fun i _ modes => do
    let modeOf (block : Option BlockHeader) (i : Nat) : SmallMode :=
      match block with
      | none => .mean
      | some b => b.small.getD i .mean
    let aboveMode := if i < 4 then modeOf above (i + 12) else modes.getD (i - 4) .mean
    let leftMode := if i % 4 = 0 then modeOf left (i + 3) else modes.getD (i - 1) .mean
    return modes.push (← readSmall aboveMode leftMode)) #[]

def read (h : Header) (above left : Option BlockHeader) : Reader BlockHeader := do
  let segment ← readSegment h
  let isEmpty ← match h.filledProbability with
    | none => pure false
    | some p => decision p
  let luma ← readLuma
  let small ← match luma with
    | none => readSmalls above left
    | some mode => pure (Array.replicate 16 mode.small)
  let chroma ← readChroma
  return ⟨segment, isEmpty, luma, small, chroma⟩

def readAll (h : Header) (columns rows : Nat) : Reader (Array BlockHeader) :=
  (columns * rows).foldM (fun i _ blocks => do
    let above := if columns ≤ i then blocks[i - columns]? else none
    let left := if i % columns = 0 then none else blocks[i - 1]?
    return blocks.push (← read h above left)) #[]

end BlockHeader

end ImageIntake.Webp.Lossy
