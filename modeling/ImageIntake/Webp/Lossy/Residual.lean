import ImageIntake.Webp.Lossy.Modes

namespace ImageIntake.Webp.Lossy

inductive CoefficientKind where
  | lumaDetail
  | second
  | chroma
  | luma
  deriving DecidableEq, Repr

namespace CoefficientKind

def index : CoefficientKind → Nat
  | .lumaDetail => 0
  | .second => 1
  | .chroma => 2
  | .luma => 3

def first : CoefficientKind → Nat
  | .lumaDetail => 1
  | _ => 0

end CoefficientKind

def bands : Array Nat := #[0, 1, 2, 3, 6, 4, 5, 6, 6, 6, 6, 6, 6, 6, 6, 7, 0]

def diagonals : Array Nat := #[0, 1, 4, 8, 5, 2, 3, 6, 9, 12, 13, 10, 7, 11, 14, 15]

def decisionsAt (kind : CoefficientKind) (n context : Nat) : Nat :=
  ((kind.index * 8 + bands.getD n 0) * 3 + context) * 11

def tailProbabilities : Array (List UInt32) := #[
  [173, 148, 140],
  [176, 155, 140, 135],
  [180, 157, 141, 134, 130],
  [254, 254, 243, 230, 196, 177, 153, 140, 133, 130, 129]]

open Reader

def readLarge (choose : Nat → Reader Bool) : Reader Nat := do
  let chooseBit (i : Nat) : Reader Nat := return if ← choose i then 1 else 0
  if !(← choose 3) then
    if !(← choose 4) then return 2
    else return 3 + (← chooseBit 5)
  else if !(← choose 6) then
    if !(← choose 7) then return 5 + (← bit 159)
    else
      let high ← bit 165
      return 7 + 2 * high + (← bit 145)
  else
    let high ← chooseBit 8
    let kind := 2 * high + (← chooseBit (9 + high))
    let tail ← (tailProbabilities.getD kind []).foldlM (fun n p => return 2 * n + (← bit p)) 0
    return tail + 3 + 8 <<< kind

def readCoefficients (probabilities : ByteArray) (kind : CoefficientKind) (mean detail : Int) :
    (left n start : Nat) → (mayEnd : Bool) → Array Int → Reader (Nat × Array Int)
  | 0, n, _, _, values => return (n, values)
  | left + 1, n, start, mayEnd, values => do
      let choose (i : Nat) := decision (probabilities.get! (start + i)).toUInt32
      if mayEnd then
        if !(← choose 0) then return (n, values)
      if !(← choose 1) then
        readCoefficients probabilities kind mean detail left (n + 1) (decisionsAt kind (n + 1) 0)
          false values
      else
        let isLarge ← choose 2
        let size ← if isLarge then readLarge choose else pure 1
        let value : Int := if ← flag then -size else size
        let values := if values.isEmpty then Array.replicate 16 0 else values
        readCoefficients probabilities kind mean detail left (n + 1)
          (decisionsAt kind (n + 1) (if isLarge then 2 else 1)) true
          (values.setIfInBounds (diagonals.getD n 0) (value * (if n = 0 then mean else detail)))

structure Residual where
  small : Array (Array Int)
  filled : Array Bool
  secondBelow : Bool
  secondRight : Bool
  deriving Inhabited

namespace Residual

def hasDifferences (r : Residual) : Bool := r.small.any fun values => !values.isEmpty

def undoSecond (c : Array Int) : Array Int :=
  let at0 (i : Nat) := c.getD i 0
  let columns := Array.ofFn fun i : Fin 16 =>
    let column := i.val % 4
    let outer := at0 column + at0 (12 + column)
    let inner := at0 (4 + column) + at0 (8 + column)
    let outer' := at0 column - at0 (12 + column)
    let inner' := at0 (4 + column) - at0 (8 + column)
    match i.val / 4 with
    | 0 => outer + inner
    | 1 => outer' + inner'
    | 2 => outer - inner
    | _ => outer' - inner'
  Array.ofFn fun i : Fin 16 =>
    let row := i.val / 4 * 4
    let v (k : Nat) := columns.getD (row + k) 0
    let sum := match i.val % 4 with
      | 0 => v 0 + v 3 + (v 1 + v 2)
      | 1 => v 0 - v 3 + (v 1 - v 2)
      | 2 => v 0 + v 3 - (v 1 + v 2)
      | _ => v 0 - v 3 - (v 1 - v 2)
    (sum + 3) / 8

def withMean (values : Array Int) (mean : Int) : Array Int :=
  if mean = 0 then values
  else (if values.isEmpty then Array.replicate 16 0 else values).setIfInBounds 0 mean

def isFilled (r : Option Residual) (i : Nat) : Bool :=
  match r with
  | none => false
  | some r => r.filled.getD i false

def secondBelowOf : Option Residual → Bool
  | none => false
  | some r => r.secondBelow

def secondRightOf : Option Residual → Bool
  | none => false
  | some r => r.secondRight

def empty (hasSecond : Bool) (above left : Option Residual) : Residual where
  small := Array.replicate 24 #[]
  filled := Array.replicate 24 false
  secondBelow := if hasSecond then false else secondBelowOf above
  secondRight := if hasSecond then false else secondRightOf left

def readSquare (probabilities : ByteArray) (kind : CoefficientKind) (mean detail : Int)
    (side start : Nat) (above left : Option Residual) (blocks : Array (Array Int) × Array Bool) :
    Reader (Array (Array Int) × Array Bool) :=
  (side * side).foldM (fun i _ (small, filled) => do
    let isAboveFilled := if i < side then isFilled above (start + i + side * (side - 1))
      else filled.getD (start + i - side) false
    let isLeftFilled := if i % side = 0 then isFilled left (start + i + (side - 1))
      else filled.getD (start + i - 1) false
    let context := isAboveFilled.toNat + isLeftFilled.toNat
    let first := kind.first
    let (stop, values) ← readCoefficients probabilities kind mean detail (16 - first) first
      (decisionsAt kind first context) true #[]
    return (small.push values, filled.push (first < stop))) blocks

def read (probabilities : ByteArray) (steps : Steps) (hasSecond : Bool)
    (above left : Option Residual) : Reader Residual := do
  let context := (secondBelowOf above).toNat + (secondRightOf left).toNat
  let (stop, second) ← if hasSecond then
      readCoefficients probabilities .second steps.secondMean steps.secondDetail 16 0
        (decisionsAt .second 0 context) true #[]
    else pure (0, #[])
  let kind := if hasSecond then CoefficientKind.lumaDetail else CoefficientKind.luma
  let (small, filled) ←
    readSquare probabilities kind steps.lumaMean steps.lumaDetail 4 0 above left (#[], #[])
  let small := if second.isEmpty then small else small.zipWith withMean (undoSecond second)
  let chroma := readSquare probabilities .chroma steps.chromaMean steps.chromaDetail 2
  let (small, filled) ← chroma 20 above left (← chroma 16 above left (small, filled))
  return {
    small, filled
    secondBelow := if hasSecond then 0 < stop else secondBelowOf above
    secondRight := if hasSecond then 0 < stop else secondRightOf left }

def readAll (h : Header) (columns : Nat) (blocks : Array BlockHeader)
    (readers : Array BoolReader) : Array Residual × Array BoolReader :=
  let steps := Array.ofFn fun segment : Fin 4 => h.stepsOf segment
  blocks.size.fold (fun i _ (residuals, readers) =>
    let block := blocks.getD i default
    let above := if columns ≤ i then residuals[i - columns]? else none
    let left := if i % columns = 0 then none else residuals[i - 1]?
    let hasSecond := block.luma.isSome
    let turn := i / columns % readers.size
    if block.isEmpty then (residuals.push (empty hasSecond above left), readers)
    else match readers[turn]?, steps[block.segment]? with
      | some reader, some steps =>
          let (residual, reader) := read h.probabilities steps hasSecond above left reader
          (residuals.push residual, readers.setIfInBounds turn reader)
      | _, _ => (residuals.push (empty hasSecond above left), readers))
    ((#[] : Array Residual), readers)

end Residual

end ImageIntake.Webp.Lossy
