namespace ImageIntake.Webp.Lossy

structure BoolReader where
  bytes : ByteArray
  stop : Nat
  place : Nat
  value : UInt32
  range : UInt32
  ready : UInt32

abbrev Reader := StateM BoolReader

namespace BoolReader

def ofRange (bytes : ByteArray) (place stop : Nat) : BoolReader := ⟨bytes, stop, place, 0, 255, 0⟩

def isSound (r : BoolReader) : Bool := r.place ≤ r.stop + 1

@[inline] def nextByte (r : BoolReader) : UInt32 :=
  if h : r.place < r.stop ∧ r.place < r.bytes.size then (r.bytes.get r.place h.2).toUInt32 else 0

@[inline] def decide (probability : UInt32) (r : BoolReader) : Bool × BoolReader :=
  let isShort := r.ready < 8
  let value := if isShort then r.value <<< 8 ||| r.nextByte else r.value
  let place := if isShort then r.place + 1 else r.place
  let ready := if isShort then r.ready + 8 else r.ready
  let split := (1 : UInt32) + ((r.range - 1) * probability) >>> 8
  let bound := split <<< (ready - 8)
  let isPositive := bound ≤ value
  let range := if isPositive then r.range - split else split
  let value := if isPositive then value - bound else value
  let shift := 7 - range.log2
  (isPositive, ⟨r.bytes, r.stop, place, value, range <<< shift, ready - shift⟩)

end BoolReader

namespace Reader

@[inline] def decision (probability : UInt32) : Reader Bool := fun r => r.decide probability

@[inline] def flag : Reader Bool := decision 128

@[inline] def bit (probability : UInt32) : Reader Nat := do
  return if ← decision probability then 1 else 0

def number (count : Nat) : Reader Nat :=
  count.foldM (fun _ _ n => return 2 * n + (← bit 128)) 0

def signed (count : Nat) : Reader Int := do
  let n ← number count
  return if ← flag then -(n : Int) else n

def optional {α : Type} (read : Reader α) (missing : α) : Reader α := do
  if ← flag then read else return missing

end Reader

end ImageIntake.Webp.Lossy
