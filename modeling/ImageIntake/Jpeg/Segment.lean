import ImageIntake.Binary.Bytes
import ImageIntake.Binary.PrefixCode

namespace ImageIntake.Jpeg

open Bytes

structure Marker where
  code : Nat
  place : Nat

def nextMarker? (b : ByteArray) : Nat → Nat → Option Marker
  | 0, _ => none
  | fuel + 1, place =>
      if b.size < place + 2 then none
      else
        let code := at0 b (place + 1)
        if at0 b place = 0xff ∧ code ≠ 0 ∧ code ≠ 0xff then some ⟨code, place + 2⟩
        else nextMarker? b fuel (place + 1)

structure Component where
  id : Nat
  across : Nat
  down : Nat
  steps : Nat
  deriving DecidableEq, Repr, Inhabited

structure Frame where
  width : Nat
  height : Nat
  isProgressive : Bool
  components : Array Component
  deriving DecidableEq, Repr, Inhabited

namespace Frame

def maxAcross (f : Frame) : Nat := f.components.foldl (fun n c => max n c.across) 1

def maxDown (f : Frame) : Nat := f.components.foldl (fun n c => max n c.down) 1

def unitColumns (f : Frame) : Nat := (f.width + 8 * f.maxAcross - 1) / (8 * f.maxAcross)

def unitRows (f : Frame) : Nat := (f.height + 8 * f.maxDown - 1) / (8 * f.maxDown)

def blockColumns (f : Frame) (c : Component) : Nat := f.unitColumns * c.across

def blockRows (f : Frame) (c : Component) : Nat := f.unitRows * c.down

def usedColumns (f : Frame) (c : Component) : Nat :=
  ((f.width * c.across + f.maxAcross - 1) / f.maxAcross + 7) / 8

def usedRows (f : Frame) (c : Component) : Nat :=
  ((f.height * c.down + f.maxDown - 1) / f.maxDown + 7) / 8

def read? (b : ByteArray) (place length : Nat) (isProgressive : Bool) : Option Frame :=
  let count := at0 b (place + 5)
  let component (i : Nat) : Component :=
    let start := place + 6 + 3 * i
    ⟨at0 b start, at0 b (start + 1) / 16, at0 b (start + 1) % 16, at0 b (start + 2)⟩
  let components := Array.ofFn fun i : Fin count => component i
  let f : Frame := ⟨word16 .big b (place + 3), word16 .big b (place + 1), isProgressive, components⟩
  if length = 6 + 3 * count && at0 b place = 8 && 0 < f.width && 0 < f.height &&
      [1, 3, 4].contains count && components.all (fun c =>
        [1, 2, 4].contains c.across && [1, 2, 4].contains c.down && c.steps ≤ 3) then
    some f
  else none

end Frame

structure Share where
  component : Nat
  meanCode : Nat
  detailCode : Nat
  deriving DecidableEq, Repr

structure ScanHead where
  shares : Array Share
  first : Nat
  last : Nat
  isRefinement : Bool
  shift : Nat
  deriving DecidableEq, Repr

def ScanHead.unit (h : ScanHead) : Int := (1 <<< h.shift : Nat)

def ScanHead.read? (b : ByteArray) (place length : Nat) (f : Frame) : Option ScanHead := do
  let count := at0 b place
  guard (1 ≤ count && count ≤ 4 && length = 4 + 2 * count)
  let shares ← (List.range count).mapM fun i => do
    let id := at0 b (place + 1 + 2 * i)
    let codes := at0 b (place + 2 + 2 * i)
    let component ← f.components.findIdx? fun c => c.id == id
    return Share.mk component (codes / 16) (codes % 16)
  let rest := place + 1 + 2 * count
  let first := at0 b rest
  let last := at0 b (rest + 1)
  guard (first ≤ 63 && last ≤ 63)
  return ⟨shares.toArray, first, last, at0 b (rest + 2) / 16 ≠ 0, at0 b (rest + 2) % 16⟩

def diagonals : Array Nat := #[
  0, 1, 8, 16, 9, 2, 3, 10, 17, 24, 32, 25, 18, 11, 4, 5,
  12, 19, 26, 33, 40, 48, 41, 34, 27, 20, 13, 6, 7, 14, 21, 28,
  35, 42, 49, 56, 57, 50, 43, 36, 29, 22, 15, 23, 30, 37, 44, 51,
  58, 59, 52, 45, 38, 31, 39, 46, 53, 60, 61, 54, 47, 55, 62, 63]

structure Tables where
  steps : Array (Option (Array Int))
  meanCodes : Array (Option PrefixCode)
  detailCodes : Array (Option PrefixCode)
  restartInterval : Nat
  colourTransform : Option Nat

namespace Tables

def empty : Tables :=
  ⟨Array.replicate 4 none, Array.replicate 4 none, Array.replicate 4 none, 0, none⟩

def readSteps (b : ByteArray) (stop : Nat) : Nat → Nat → Tables → Option Tables
  | 0, _, _ => none
  | fuel + 1, place, t =>
      if stop ≤ place then some t
      else
        let isWide := at0 b place / 16 ≠ 0
        let number := at0 b place % 16
        let next := place + 1 + (if isWide then 128 else 64)
        if 3 < number ∨ stop < next then none
        else
          let step (i : Nat) : Int :=
            if isWide then word16 .big b (place + 1 + 2 * i) else at0 b (place + 1 + i)
          let steps := Nat.fold 64 (fun i _ (steps : Array Int) =>
            steps.setIfInBounds (diagonals.getD i 0) (step i)) (Array.replicate 64 0)
          readSteps b stop fuel next { t with steps := t.steps.setIfInBounds number (some steps) }

def codeOf (b : ByteArray) (counts : Array Nat) (place : Nat) : PrefixCode :=
  let words := counts.foldl (fun (words, length) n =>
    (n.fold (fun _ _ (words : Array PrefixCode.Word) =>
      words.push ⟨at0 b (place + words.size), length⟩) words, length + 1)) (#[], 1)
  .ofWords .highFirst words.1

def readCodes (b : ByteArray) (stop : Nat) : Nat → Nat → Tables → Option Tables
  | 0, _, _ => none
  | fuel + 1, place, t =>
      if stop ≤ place then some t
      else
        let number := at0 b place % 16
        let counts := Array.ofFn fun i : Fin 16 => at0 b (place + 1 + i)
        let total := counts.foldl (· + ·) 0
        let next := place + 17 + total
        if 3 < number ∨ stop < next ∨ 256 < total then none
        else
          let code := some (codeOf b counts (place + 17))
          readCodes b stop fuel next (if at0 b place / 16 = 0
            then { t with meanCodes := t.meanCodes.setIfInBounds number code }
            else { t with detailCodes := t.detailCodes.setIfInBounds number code })

end Tables

end ImageIntake.Jpeg
