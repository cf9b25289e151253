import ImageIntake.Binary.Bits
import ImageIntake.Png.Header

namespace ImageIntake.Png

inductive Filter where
  | none
  | left
  | above
  | average
  | nearest
  deriving DecidableEq, Repr

namespace Filter

def ofCode? : UInt32 → Option Filter
  | 0 => some .none
  | 1 => some .left
  | 2 => some .above
  | 3 => some .average
  | 4 => some .nearest
  | _ => Option.none

def distance (a b : UInt32) : UInt32 := if a < b then b - a else a - b

def nearestOf (left above corner : UInt32) : UInt32 :=
  let toLeft := distance above corner
  let toAbove := distance left corner
  let toCorner := distance (left + above) (2 * corner)
  if toLeft ≤ toAbove && toLeft ≤ toCorner then left
  else if toAbove ≤ toCorner then above
  else corner

@[inline] def guess (f : Filter) (left above corner : UInt32) : UInt32 :=
  match f with
  | .none => 0
  | .left => left
  | .above => above
  | .average => (left + above) / 2
  | .nearest => nearestOf left above corner

end Filter

def restoreRow (filter : Filter) (step rowBytes : Nat) (hasAbove : Bool) (stored : ByteArray)
    (start : Nat) (out : ByteArray) : ByteArray :=
  rowBytes.fold (fun j _ out =>
    let size := out.size
    let left := if step ≤ j then Bits.byteAt out (size - step) else 0
    let above := if hasAbove then Bits.byteAt out (size - rowBytes) else 0
    let corner := if hasAbove && step ≤ j then Bits.byteAt out (size - rowBytes - step) else 0
    out.push (Bits.byteAt stored (start + j) + filter.guess left above corner).toUInt8) out

def restoreRows (step rowBytes : Nat) (stored : ByteArray) (start : Nat) :
    Nat → Nat → ByteArray → Option ByteArray
  | _, 0, out => some out
  | done, rows + 1, out =>
      let place := start + done * (rowBytes + 1)
      match Filter.ofCode? (Bits.byteAt stored place) with
      | none => none
      | some filter =>
          restoreRows step rowBytes stored start (done + 1) rows
            (restoreRow filter step rowBytes (done != 0) stored (place + 1) out)

structure Pass where
  startX : Nat
  startY : Nat
  stepX : Nat
  stepY : Nat
  deriving DecidableEq, Repr

namespace Pass

def whole : Pass := ⟨0, 0, 1, 1⟩

def interlaced : List Pass := [
  ⟨0, 0, 8, 8⟩, ⟨4, 0, 8, 8⟩, ⟨0, 4, 4, 8⟩, ⟨2, 0, 4, 4⟩, ⟨0, 2, 2, 4⟩, ⟨1, 0, 2, 2⟩, ⟨0, 1, 1, 2⟩]

def columns (p : Pass) (width : Nat) : Nat := (width - p.startX + p.stepX - 1) / p.stepX

def rows (p : Pass) (height : Nat) : Nat := (height - p.startY + p.stepY - 1) / p.stepY

def storedBytes (p : Pass) (h : Header) : Nat :=
  if p.columns h.width = 0 then 0 else p.rows h.height * (h.rowBytes (p.columns h.width) + 1)

def restore (p : Pass) (h : Header) (stored : ByteArray) (start : Nat) : Option ByteArray :=
  if p.columns h.width = 0 then some .empty
  else restoreRows h.filterStep (h.rowBytes (p.columns h.width)) stored start 0 (p.rows h.height)
    .empty

def indexOf (x y : Nat) : Nat :=
  if y % 2 = 1 then 6
  else if x % 2 = 1 then 5
  else if y % 4 = 2 then 4
  else if x % 4 = 2 then 3
  else if y % 8 = 4 then 2
  else if x % 8 = 4 then 1
  else 0

end Pass

namespace Header

def passes (h : Header) : List Pass := if h.interlaced then Pass.interlaced else [Pass.whole]

def storedBytes (h : Header) : Nat :=
  h.passes.foldl (fun n p => n + p.storedBytes h) 0

end Header

structure Layer where
  pass : Pass
  rowBytes : Nat
  rows : ByteArray

def restoreLayers (h : Header) (stored : ByteArray) : List Pass → Nat → Option (List Layer)
  | [], _ => some []
  | p :: rest, start => do
      let rows ← p.restore h stored start
      let layers ← restoreLayers h stored rest (start + p.storedBytes h)
      return ⟨p, h.rowBytes (p.columns h.width), rows⟩ :: layers

def sampleAt (depth : Nat) (rows : ByteArray) (start i : Nat) : UInt32 :=
  if depth = 8 then Bits.byteAt rows (start + i)
  else if depth = 16 then
    Bits.byteAt rows (start + 2 * i) <<< 8 ||| Bits.byteAt rows (start + 2 * i + 1)
  else (Bits.high rows (8 * start + depth * i) depth).toUInt32

end ImageIntake.Png
