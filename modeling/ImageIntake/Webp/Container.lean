import ImageIntake.Binary.Bytes

namespace ImageIntake.Webp

open Bytes

structure Extent where
  start : Nat
  stop : Nat
  deriving DecidableEq, Repr

def Extent.content (e : Extent) (b : ByteArray) : ByteArray := b.extract e.start e.stop

structure Chunk where
  name : String
  extent : Extent
  deriving DecidableEq, Repr

namespace Chunk

def names : List String := ["VP8 ", "VP8L", "VP8X", "ALPH", "ANIM", "ANMF", "EXIF", "XMP ", "ICCP"]

def nameAt (b : ByteArray) (place : Nat) : String :=
  (names.find? fun name => hasText b place name).getD ""

def length (c : Chunk) : Nat := c.extent.stop - c.extent.start

def next (c : Chunk) : Nat := c.extent.stop + c.length % 2

def at? (b : ByteArray) (place : Nat) : Option Chunk :=
  if b.size < place + 8 then none
  else some ⟨nameAt b place, ⟨place + 8, place + 8 + word32 .little b (place + 4)⟩⟩

def list (b : ByteArray) (stop : Nat) : Nat → Nat → List Chunk
  | 0, _ => []
  | fuel + 1, place =>
      if stop ≤ place then []
      else match at? b place with
        | none => []
        | some c => c :: list b stop fuel c.next

end Chunk

def find? (chunks : List Chunk) (name : String) : Option Extent :=
  (chunks.find? fun c => c.name == name).map Chunk.extent

def has (chunks : List Chunk) (name : String) : Bool := (find? chunks name).isSome

structure Canvas where
  width : Nat
  height : Nat
  hasAlpha : Bool
  isAnimated : Bool
  hasExif : Bool
  hasXmp : Bool
  deriving DecidableEq, Repr

namespace Canvas

def read? (b : ByteArray) (e : Extent) : Option Canvas :=
  let flag (bit : Nat) : Bool := at0 b e.start >>> bit % 2 = 1
  let c : Canvas :=
    ⟨word24 .little b (e.start + 4) + 1, word24 .little b (e.start + 7) + 1, flag 4, flag 1, flag 3,
      flag 2⟩
  if b.size < e.start + 10 ∨ 1 <<< 32 ≤ c.width * c.height then none else some c

def isComplete (c : Canvas) (chunks : List Chunk) : Bool :=
  (!c.isAnimated || (has chunks "ANIM" && has chunks "ANMF")) &&
    (!c.hasExif || has chunks "EXIF") && (!c.hasXmp || has chunks "XMP ") &&
    (c.isAnimated || has chunks "VP8 " != has chunks "VP8L")

end Canvas

end ImageIntake.Webp
