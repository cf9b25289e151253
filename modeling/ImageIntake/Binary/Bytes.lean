namespace ImageIntake

inductive ByteOrder where
  | big
  | little
  deriving DecidableEq, Repr

namespace Bytes

@[inline] def at0 (b : ByteArray) (i : Nat) : Nat :=
  if h : i < b.size then (b.get i h).toNat else 0

def word16 (order : ByteOrder) (b : ByteArray) (i : Nat) : Nat :=
  match order with
  | .big => at0 b i * 256 + at0 b (i + 1)
  | .little => at0 b (i + 1) * 256 + at0 b i

def word24 (order : ByteOrder) (b : ByteArray) (i : Nat) : Nat :=
  match order with
  | .big => at0 b i * 65536 + word16 .big b (i + 1)
  | .little => at0 b (i + 2) * 65536 + word16 .little b i

def word32 (order : ByteOrder) (b : ByteArray) (i : Nat) : Nat :=
  match order with
  | .big => word16 .big b i * 65536 + word16 .big b (i + 2)
  | .little => word16 .little b (i + 2) * 65536 + word16 .little b i

def hasText (b : ByteArray) (i : Nat) (text : String) : Bool :=
  b.extract i (i + text.utf8ByteSize) == text.toUTF8

def hasBytes (b : ByteArray) (i : Nat) (bytes : List UInt8) : Bool :=
  (b.extract i (i + bytes.length)).toList == bytes

def dropFront (b : ByteArray) (n : Nat) : ByteArray := b.extract n b.size

def ofWord32 (order : ByteOrder) (n : Nat) : List UInt8 :=
  let low := UInt8.ofNat n
  let second := UInt8.ofNat (n / 256)
  let third := UInt8.ofNat (n / 65536)
  let high := UInt8.ofNat (n / 16777216)
  match order with
  | .big => [high, third, second, low]
  | .little => [low, second, third, high]

end Bytes

end ImageIntake
