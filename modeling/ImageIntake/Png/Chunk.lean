import ImageIntake.Binary.Bytes
import ImageIntake.Digest.Crc32
import ImageIntake.Png.Header

namespace ImageIntake.Png

open Bytes

structure Chunk where
  place : Nat
  length : Nat

namespace Chunk

def at? (b : ByteArray) (place : Nat) : Option Chunk :=
  if b.size < place + 8 then none else some ⟨place, word32 .big b place⟩

def hasName (c : Chunk) (b : ByteArray) (name : String) : Bool := hasText b (c.place + 4) name

def isCritical (c : Chunk) (b : ByteArray) : Bool := at0 b (c.place + 4) / 32 % 2 = 0

def isWhole (c : Chunk) (b : ByteArray) : Bool := c.place + c.length + 12 ≤ b.size

def stop (c : Chunk) : Nat := c.place + c.length + 12

def content (c : Chunk) (b : ByteArray) : ByteArray :=
  b.extract (c.place + 8) (c.place + 8 + c.length)

def isSound (c : Chunk) (b : ByteArray) : Bool :=
  (Crc32.ofRange b (c.place + 4) (c.place + 8 + c.length)).toNat =
    word32 .big b (c.place + 8 + c.length)

end Chunk

structure Preamble where
  header : Header
  palette : Option ByteArray
  transparency : Option ByteArray

namespace Preamble

def addPalette? (p : Preamble) (content : ByteArray) : Option Preamble :=
  if p.palette.isNone && 3 ≤ content.size && content.size ≤ 768 then
    some { p with palette := some content }
  else none

def neededTransparency (p : Preamble) : Nat :=
  match p.header.colour with
  | .gray => 2
  | .rgb => 6
  | _ => 0

def allowsTransparency (p : Preamble) : Bool :=
  match p.header.colour with
  | .gray => true
  | .rgb => true
  | .palette => p.palette.isSome
  | _ => false

def addTransparency (p : Preamble) (content : ByteArray) : Preamble :=
  if p.transparency.isNone && p.allowsTransparency && p.neededTransparency ≤ content.size then
    { p with transparency := some content }
  else p

end Preamble

def readPreamble (b : ByteArray) : Nat → Nat → Preamble → Option (Preamble × Nat)
  | 0, _, _ => none
  | fuel + 1, place, p => do
      let chunk ← Chunk.at? b place
      if chunk.hasName b "IDAT" then
        guard (p.header.colour ≠ .palette || p.palette.isSome)
        return (p, place)
      guard (chunk.isWhole b)
      if chunk.isCritical b then
        guard (chunk.isSound b && chunk.hasName b "PLTE")
        readPreamble b fuel chunk.stop (← p.addPalette? (chunk.content b))
      else if chunk.isSound b && chunk.hasName b "tRNS" then
        readPreamble b fuel chunk.stop (p.addTransparency (chunk.content b))
      else readPreamble b fuel chunk.stop p

def readData (b : ByteArray) : Nat → Nat → ByteArray → Option ByteArray
  | 0, _, _ => none
  | fuel + 1, place, data => do
      let chunk ← Chunk.at? b place
      if chunk.hasName b "IDAT" then
        guard (chunk.isWhole b && chunk.isSound b)
        readData b fuel chunk.stop (data ++ chunk.content b)
      else return data

def readChunks (b : ByteArray) : Option (Preamble × ByteArray) := do
  let first ← Chunk.at? b 8
  guard (first.hasName b "IHDR" && first.isWhole b && first.isSound b)
  let header ← Header.ofContent? (first.content b)
  let (preamble, place) ← readPreamble b b.size first.stop ⟨header, none, none⟩
  let data ← readData b b.size place .empty
  return (preamble, data)

end ImageIntake.Png
