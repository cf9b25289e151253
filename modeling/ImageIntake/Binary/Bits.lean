namespace ImageIntake

inductive BitOrder where
  | lowFirst
  | highFirst
  deriving DecidableEq, Repr

namespace Bits

@[inline] def byteAt (b : ByteArray) (i : Nat) : UInt32 :=
  if h : i < b.size then (b.get i h).toUInt32 else 0

@[inline] def lowWindow (b : ByteArray) (place : Nat) : UInt32 :=
  let i := place / 8
  (byteAt b i ||| byteAt b (i + 1) <<< 8 ||| byteAt b (i + 2) <<< 16 ||| byteAt b (i + 3) <<< 24)
    >>> (place % 8).toUInt32

@[inline] def highWindow (b : ByteArray) (place : Nat) : UInt32 :=
  let i := place / 8
  (byteAt b i <<< 24 ||| byteAt b (i + 1) <<< 16 ||| byteAt b (i + 2) <<< 8 ||| byteAt b (i + 3))
    <<< (place % 8).toUInt32

@[inline] def low (b : ByteArray) (place count : Nat) : Nat :=
  (lowWindow b place &&& ((1 : UInt32) <<< count.toUInt32 - 1)).toNat

@[inline] def high (b : ByteArray) (place count : Nat) : Nat :=
  if count = 0 then 0 else (highWindow b place >>> (32 - count.toUInt32)).toNat

def reverse : Nat → Nat → Nat
  | 0, _ => 0
  | count + 1, n => (n % 2) <<< count + reverse count (n / 2)

end Bits

structure BitWriter where
  bytes : ByteArray
  pending : UInt64
  count : Nat

namespace BitWriter

def empty : BitWriter := ⟨.empty, 0, 0⟩

def flush : Nat → BitWriter → BitWriter
  | 0, w => w
  | fuel + 1, w =>
      if w.count < 8 then w
      else flush fuel ⟨w.bytes.push w.pending.toUInt8, w.pending >>> 8, w.count - 8⟩

def append (w : BitWriter) (count : Nat) (word : UInt32) : BitWriter :=
  flush 4 ⟨w.bytes, w.pending ||| word.toUInt64 <<< w.count.toUInt64, w.count + count⟩

def toByteArray (w : BitWriter) : ByteArray :=
  if w.count = 0 then w.bytes else w.bytes.push w.pending.toUInt8

end BitWriter

end ImageIntake
