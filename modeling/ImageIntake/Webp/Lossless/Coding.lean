import ImageIntake.Binary.PrefixCode

namespace ImageIntake.Webp.Lossless

structure Found (α : Type) where
  value : α
  place : Nat

def bits? (b : ByteArray) (place count : Nat) : Option Nat :=
  if 8 * b.size < place + count then none else some (Bits.low b place count)

structure Group where
  green : PrefixCode
  red : PrefixCode
  blue : PrefixCode
  alpha : PrefixCode
  distance : PrefixCode

def lengthOrder : Array Nat := #[17, 18, 0, 1, 2, 3, 4, 5, 16, 6, 7, 8, 9, 10, 11, 12, 13, 14, 15]

def codeOf? (lengths : Array Nat) : Option PrefixCode :=
  if PrefixCode.wordCount lengths = 1 then
    (lengths.findIdx? (· ≠ 0)).map PrefixCode.single
  else if PrefixCode.coverage 15 lengths = 1 <<< 15 then some (.ofLengths .lowFirst lengths)
  else none

def readLengths (b : ByteArray) (code : PrefixCode) (size : Nat) :
    Nat → Nat → Nat → Array Nat → Option (Found (Array Nat))
  | 0, _, place, lengths => some ⟨lengths, place⟩
  | left + 1, last, place, lengths =>
      if size ≤ lengths.size then some ⟨lengths, place⟩
      else
        let entry := code.lookLow b place
        let place := place + PrefixCode.entryLength entry
        let symbol := PrefixCode.entrySymbol entry
        let repeated (length base extraBits : Nat) :=
          let n := base + Bits.low b place extraBits
          if size < lengths.size + n then none
          else readLengths b code size left last (place + extraBits)
            (lengths ++ Array.replicate n length)
        if 8 * b.size < place then none
        else if symbol < 16 then
          readLengths b code size left (if symbol = 0 then last else symbol) place
            (lengths.push symbol)
        else if symbol = 16 then repeated last 3 2
        else if symbol = 17 then repeated 0 3 3
        else repeated 0 11 7

def readShortCode (b : ByteArray) (place size : Nat) : Option (Found PrefixCode) := do
  let isPair ← bits? b place 1
  let isWide ← bits? b (place + 1) 1
  let width := if isWide = 1 then 8 else 1
  let first ← bits? b (place + 2) width
  let place := place + 2 + width
  guard (first < size)
  if isPair = 0 then return ⟨.single first, place⟩
  let second ← bits? b place 8
  guard (second < size)
  let lengths := (Array.replicate size 0).setIfInBounds first 1 |>.setIfInBounds second 1
  return ⟨← codeOf? lengths, place + 8⟩

def readLengthCount (b : ByteArray) (place size : Nat) : Option (Found Nat) := do
  if (← bits? b place 1) = 0 then return ⟨size, place + 1⟩
  let width := 2 + 2 * (← bits? b (place + 1) 3)
  let count := 2 + (← bits? b (place + 4) width)
  guard (count ≤ size)
  return ⟨count, place + 4 + width⟩

def readCode (b : ByteArray) (place size : Nat) : Option (Found PrefixCode) := do
  if (← bits? b place 1) = 1 then readShortCode b (place + 1) size
  else
    let count := 4 + (← bits? b (place + 1) 4)
    let place := place + 5
    guard (place + 3 * count ≤ 8 * b.size)
    let lengths := count.fold
      (fun i _ lengths =>
        lengths.setIfInBounds (lengthOrder.getD i 0) (Bits.low b (place + 3 * i) 3))
      (Array.replicate 19 0)
    let code ← codeOf? lengths
    let ⟨limit, place⟩ ← readLengthCount b (place + 3 * count) size
    let ⟨lengths, place⟩ ← readLengths b code size limit 8 place #[]
    return ⟨← codeOf? lengths, place⟩

def readGroup (b : ByteArray) (cacheSize place : Nat) : Option (Found Group) := do
  let ⟨green, place⟩ ← readCode b place (256 + 24 + cacheSize)
  let ⟨red, place⟩ ← readCode b place 256
  let ⟨blue, place⟩ ← readCode b place 256
  let ⟨alpha, place⟩ ← readCode b place 256
  let ⟨distance, place⟩ ← readCode b place 40
  return ⟨⟨green, red, blue, alpha, distance⟩, place⟩

def readGroups (b : ByteArray) (cacheSize : Nat) :
    Nat → Nat → Array Group → Option (Found (Array Group))
  | 0, place, groups => some ⟨groups, place⟩
  | count + 1, place, groups =>
      match readGroup b cacheSize place with
      | none => none
      | some ⟨group, place⟩ => readGroups b cacheSize count place (groups.push group)

structure ColourCache where
  indexBits : Nat
  colours : Array UInt32

namespace ColourCache

def ofBits (indexBits : Nat) : ColourCache :=
  ⟨indexBits, if indexBits = 0 then #[] else Array.replicate (1 <<< indexBits) 0⟩

@[inline] def insert (c : ColourCache) (pixel : UInt32) : ColourCache :=
  if c.indexBits = 0 then c
  else
    let ⟨indexBits, colours⟩ := c
    let index := (0x1e35a7bd * pixel) >>> (32 - indexBits.toUInt32)
    ⟨indexBits, colours.setIfInBounds index.toNat pixel⟩

end ColourCache

structure Coding where
  width : Nat
  height : Nat
  groups : Array Group
  blockBits : Nat
  blockGroups : Array UInt32

namespace Coding

def size (c : Coding) : Nat := c.width * c.height

def blocks (side blockBits : Nat) : Nat := (side + 1 <<< blockBits - 1) >>> blockBits

@[inline] def group? (c : Coding) (i : Nat) : Option Group :=
  if c.blockGroups.isEmpty then c.groups[0]?
  else
    let column := (i % c.width) >>> c.blockBits
    let row := (i / c.width) >>> c.blockBits
    c.groups[((c.blockGroups.getD (row * blocks c.width c.blockBits + column) 0 >>> 8)
      &&& 0xffff).toNat]?

end Coding

def readAmount (b : ByteArray) (place symbol : Nat) : Found Nat :=
  if symbol < 4 then ⟨symbol + 1, place⟩
  else
    let extraBits := (symbol - 2) / 2
    ⟨(2 + symbol % 2) <<< extraBits + Bits.low b place extraBits + 1, place + extraBits⟩

def neighbours : Array (Int × Int) := #[
  (0, 1), (1, 0), (1, 1), (-1, 1), (0, 2), (2, 0), (1, 2), (-1, 2),
  (2, 1), (-2, 1), (2, 2), (-2, 2), (0, 3), (3, 0), (1, 3), (-1, 3),
  (3, 1), (-3, 1), (2, 3), (-2, 3), (3, 2), (-3, 2), (0, 4), (4, 0),
  (1, 4), (-1, 4), (4, 1), (-4, 1), (3, 3), (-3, 3), (2, 4), (-2, 4),
  (4, 2), (-4, 2), (0, 5), (3, 4), (-3, 4), (4, 3), (-4, 3), (5, 0),
  (1, 5), (-1, 5), (5, 1), (-5, 1), (2, 5), (-2, 5), (5, 2), (-5, 2),
  (4, 4), (-4, 4), (3, 5), (-3, 5), (5, 3), (-5, 3), (0, 6), (6, 0),
  (1, 6), (-1, 6), (6, 1), (-6, 1), (2, 6), (-2, 6), (6, 2), (-6, 2),
  (4, 5), (-4, 5), (5, 4), (-5, 4), (3, 6), (-3, 6), (6, 3), (-6, 3),
  (0, 7), (7, 0), (1, 7), (-1, 7), (5, 5), (-5, 5), (7, 1), (-7, 1),
  (4, 6), (-4, 6), (6, 4), (-6, 4), (2, 7), (-2, 7), (7, 2), (-7, 2),
  (3, 7), (-3, 7), (7, 3), (-7, 3), (5, 6), (-5, 6), (6, 5), (-6, 5),
  (8, 0), (4, 7), (-4, 7), (7, 4), (-7, 4), (8, 1), (8, 2), (6, 6),
  (-6, 6), (8, 3), (5, 7), (-5, 7), (7, 5), (-7, 5), (8, 4), (6, 7),
  (-6, 7), (7, 6), (-7, 6), (8, 5), (7, 7), (-7, 7), (8, 6), (8, 7)]

def backward (width distance : Nat) : Nat :=
  if 120 < distance then distance - 120
  else
    let (x, y) := neighbours.getD (distance - 1) (0, 1)
    max 1 (x + y * width).toNat

def copyBack (distance : Nat) : Nat → Array UInt32 → ColourCache → Array UInt32 × ColourCache
  | 0, out, cache => (out, cache)
  | length + 1, out, cache =>
      let pixel := out.getD (out.size - distance) 0
      copyBack distance length (out.push pixel) (cache.insert pixel)

def readPixels (b : ByteArray) (c : Coding) :
    Nat → Nat → Array UInt32 → ColourCache → Option (Found (Array UInt32))
  | 0, place, out, _ => if out.size < c.size then none else some ⟨out, place⟩
  | fuel + 1, place, out, cache =>
      if c.size ≤ out.size then some ⟨out, place⟩
      else match c.group? out.size with
        | none => none
        | some group =>
            let green := group.green.lookLow b place
            let place := place + PrefixCode.entryLength green
            let symbol := PrefixCode.entrySymbol green
            if 8 * b.size < place then none
            else if symbol < 256 then
              let red := group.red.lookLow b place
              let place := place + PrefixCode.entryLength red
              let blue := group.blue.lookLow b place
              let place := place + PrefixCode.entryLength blue
              let alpha := group.alpha.lookLow b place
              let place := place + PrefixCode.entryLength alpha
              let pixel := (alpha >>> 5) <<< 24 ||| (red >>> 5) <<< 16 ||| (green >>> 5) <<< 8 |||
                blue >>> 5
              if 8 * b.size < place then none
              else readPixels b c fuel place (out.push pixel) (cache.insert pixel)
            else if symbol < 256 + 24 then
              let ⟨length, place⟩ := readAmount b place (symbol - 256)
              let entry := group.distance.lookLow b place
              let place := place + PrefixCode.entryLength entry
              let ⟨code, place⟩ := readAmount b place (PrefixCode.entrySymbol entry)
              let distance := backward c.width code
              if 8 * b.size < place ∨ out.size < distance ∨ c.size < out.size + length then none
              else
                let (out, cache) := copyBack distance length out cache
                readPixels b c fuel place out cache
            else match cache.colours[symbol - 280]? with
              | none => none
              | some pixel => readPixels b c fuel place (out.push pixel) (cache.insert pixel)

def readCacheBits (b : ByteArray) (place : Nat) : Option (Found Nat) := do
  if (← bits? b place 1) = 0 then return ⟨0, place + 1⟩
  let n ← bits? b (place + 1) 4
  guard (1 ≤ n && n ≤ 11)
  return ⟨n, place + 5⟩

def cacheSize (indexBits : Nat) : Nat := if indexBits = 0 then 0 else 1 <<< indexBits

def readUniform (b : ByteArray) (place width height : Nat) : Option (Found (Array UInt32)) := do
  let ⟨cacheBits, place⟩ ← readCacheBits b place
  let ⟨groups, place⟩ ← readGroups b (cacheSize cacheBits) 1 place #[]
  readPixels b ⟨width, height, groups, 0, #[]⟩ (width * height) place #[] (.ofBits cacheBits)

def readBlockGroups (b : ByteArray) (place width height : Nat) :
    Option (Found (Nat × Array UInt32)) := do
  if (← bits? b place 1) = 0 then return ⟨(0, #[]), place + 1⟩
  let blockBits := 2 + (← bits? b (place + 1) 3)
  let ⟨groups, place⟩ ←
    readUniform b (place + 4) (Coding.blocks width blockBits) (Coding.blocks height blockBits)
  return ⟨(blockBits, groups), place⟩

def groupCount (blockGroups : Array UInt32) : Nat :=
  blockGroups.foldl (fun n (w : UInt32) => max n (((w >>> 8) &&& 0xffff).toNat + 1)) 1

def readBlocked (b : ByteArray) (place width height : Nat) : Option (Found (Array UInt32)) := do
  let ⟨cacheBits, place⟩ ← readCacheBits b place
  let ⟨(blockBits, blockGroups), place⟩ ← readBlockGroups b place width height
  let ⟨groups, place⟩ ← readGroups b (cacheSize cacheBits) (groupCount blockGroups) place #[]
  readPixels b ⟨width, height, groups, blockBits, blockGroups⟩ (width * height) place #[]
    (.ofBits cacheBits)

end ImageIntake.Webp.Lossless
