import ImageIntake.Binary.Bytes
import ImageIntake.Binary.PrefixCode

namespace ImageIntake.Deflate

structure Progress where
  place : Nat
  bytes : ByteArray

def copyBack (distance : Nat) : Nat → ByteArray → ByteArray
  | 0, out => out
  | length + 1, out =>
      copyBack distance length (out.push (Bits.byteAt out (out.size - distance)).toUInt8)

structure Range where
  base : Nat
  extraBits : Nat

def lengthRanges : Array Range := #[
  ⟨3, 0⟩, ⟨4, 0⟩, ⟨5, 0⟩, ⟨6, 0⟩, ⟨7, 0⟩, ⟨8, 0⟩, ⟨9, 0⟩, ⟨10, 0⟩, ⟨11, 1⟩, ⟨13, 1⟩, ⟨15, 1⟩,
  ⟨17, 1⟩, ⟨19, 2⟩, ⟨23, 2⟩, ⟨27, 2⟩, ⟨31, 2⟩, ⟨35, 3⟩, ⟨43, 3⟩, ⟨51, 3⟩, ⟨59, 3⟩, ⟨67, 4⟩,
  ⟨83, 4⟩, ⟨99, 4⟩, ⟨115, 4⟩, ⟨131, 5⟩, ⟨163, 5⟩, ⟨195, 5⟩, ⟨227, 5⟩, ⟨258, 0⟩]

def distanceRanges : Array Range := #[
  ⟨1, 0⟩, ⟨2, 0⟩, ⟨3, 0⟩, ⟨4, 0⟩, ⟨5, 1⟩, ⟨7, 1⟩, ⟨9, 2⟩, ⟨13, 2⟩, ⟨17, 3⟩, ⟨25, 3⟩, ⟨33, 4⟩,
  ⟨49, 4⟩, ⟨65, 5⟩, ⟨97, 5⟩, ⟨129, 6⟩, ⟨193, 6⟩, ⟨257, 7⟩, ⟨385, 7⟩, ⟨513, 8⟩, ⟨769, 8⟩,
  ⟨1025, 9⟩, ⟨1537, 9⟩, ⟨2049, 10⟩, ⟨3073, 10⟩, ⟨4097, 11⟩, ⟨6145, 11⟩, ⟨8193, 12⟩, ⟨12289, 12⟩,
  ⟨16385, 13⟩, ⟨24577, 13⟩]

def endOfBlock : Nat := 256

def readSymbols (b : ByteArray) (limit : Nat) (literals distances : PrefixCode) :
    Nat → Progress → Option Progress
  | 0, _ => none
  | fuel + 1, ⟨place, out⟩ =>
      if limit ≤ out.size then some ⟨place, out⟩
      else
        let entry := literals.lookLow b place
        let place := place + PrefixCode.entryLength entry
        let symbol := PrefixCode.entrySymbol entry
        if entry = PrefixCode.missing ∨ 8 * b.size < place then none
        else if symbol < endOfBlock then
          readSymbols b limit literals distances fuel ⟨place, out.push symbol.toUInt8⟩
        else if symbol = endOfBlock then some ⟨place, out⟩
        else match lengthRanges[symbol - 257]? with
          | none => none
          | some lengths =>
              let length := lengths.base + Bits.low b place lengths.extraBits
              let place := place + lengths.extraBits
              let entry := distances.lookLow b place
              let place := place + PrefixCode.entryLength entry
              match distanceRanges[PrefixCode.entrySymbol entry]? with
              | none => none
              | some range =>
                  let distance := range.base + Bits.low b place range.extraBits
                  let place := place + range.extraBits
                  if out.size < distance ∨ 8 * b.size < place then none
                  else readSymbols b limit literals distances fuel
                    ⟨place, copyBack distance length out⟩

def lengthOrder : Array Nat := #[16, 17, 18, 0, 8, 7, 9, 6, 10, 5, 11, 4, 12, 3, 13, 2, 14, 1, 15]

def readLengths (b : ByteArray) (code : PrefixCode) (wanted : Nat) :
    Nat → Nat → Array Nat → Option (Nat × Array Nat)
  | 0, _, _ => none
  | fuel + 1, place, lengths =>
      if lengths.size = wanted then some (place, lengths)
      else if wanted < lengths.size then none
      else
        let entry := code.lookLow b place
        let place := place + PrefixCode.entryLength entry
        let symbol := PrefixCode.entrySymbol entry
        let repeated (length base extraBits : Nat) :=
          readLengths b code wanted fuel (place + extraBits)
            (lengths ++ Array.replicate (base + Bits.low b place extraBits) length)
        if entry = PrefixCode.missing ∨ 8 * b.size < place then none
        else if symbol < 16 then readLengths b code wanted fuel place (lengths.push symbol)
        else if symbol = 16 then
          match lengths.back? with
          | none => none
          | some last => repeated last 3 2
        else if symbol = 17 then repeated 0 3 3
        else repeated 0 11 7

def maxLength : Nat := 15

def isComplete (lengths : Array Nat) : Bool :=
  PrefixCode.coverage maxLength lengths == 1 <<< maxLength

def isDistanceCode (lengths : Array Nat) : Bool :=
  isComplete lengths || PrefixCode.wordCount lengths = 0 ||
    (PrefixCode.wordCount lengths = 1 && lengths.contains 1)

structure Codes where
  place : Nat
  literals : PrefixCode
  distances : PrefixCode

def readCodes (b : ByteArray) (place : Nat) : Option Codes := do
  let literalCount := Bits.low b place 5 + 257
  let distanceCount := Bits.low b (place + 5) 5 + 1
  let lengthCount := Bits.low b (place + 10) 4 + 4
  let place := place + 14
  let lengths := lengthCount.fold
    (fun i _ lengths => lengths.setIfInBounds (lengthOrder.getD i 0) (Bits.low b (place + 3 * i) 3))
    (Array.replicate 19 0)
  guard (literalCount ≤ 286 && isComplete lengths)
  let wanted := literalCount + distanceCount
  let (place, lengths) ←
    readLengths b (.ofLengths .lowFirst lengths) wanted (wanted + 1) (place + 3 * lengthCount) #[]
  let literals := lengths.extract 0 literalCount
  let distances := lengths.extract literalCount wanted
  guard (literals.getD endOfBlock 0 ≠ 0 && isComplete literals && isDistanceCode distances)
  return ⟨place, .ofLengths .lowFirst literals, .ofLengths .lowFirst distances⟩

def fixedCodes (place : Nat) : Codes where
  place
  literals := .ofLengths .lowFirst (Array.replicate 144 8 ++ Array.replicate 112 9 ++
    Array.replicate 24 7 ++ Array.replicate 8 8)
  distances := .ofLengths .lowFirst (Array.replicate 32 5)

def readStored (b : ByteArray) (limit : Nat) (p : Progress) : Option Progress :=
  let i := (p.place + 7) / 8
  let length := Bytes.word16 .little b i
  if b.size < i + 4 ∨ length + Bytes.word16 .little b (i + 2) ≠ 0xffff then none
  else
    let stop := min (i + 4 + length) (i + 4 + (limit - p.bytes.size))
    if b.size < stop then none
    else some ⟨8 * (i + 4 + length), p.bytes ++ b.extract (i + 4) stop⟩

def readBlock (b : ByteArray) (limit kind : Nat) (p : Progress) : Option Progress :=
  match kind with
  | 0 => readStored b limit p
  | 1 => withCodes (fixedCodes p.place)
  | 2 => (readCodes b p.place).bind withCodes
  | _ => none
where
  withCodes (codes : Codes) : Option Progress :=
    readSymbols b limit codes.literals codes.distances (8 * b.size + 1) ⟨codes.place, p.bytes⟩

def readBlocks (b : ByteArray) (limit : Nat) : Nat → Progress → Option ByteArray
  | 0, _ => none
  | fuel + 1, p =>
      if limit ≤ p.bytes.size then some (p.bytes.extract 0 limit)
      else if 8 * b.size < p.place + 3 then none
      else
        let last := Bits.low b p.place 1 = 1
        match readBlock b limit (Bits.low b (p.place + 1) 2) ⟨p.place + 3, p.bytes⟩ with
        | none => none
        | some p => if last ∧ p.bytes.size < limit then none else readBlocks b limit fuel p

def isHeader (first second : Nat) : Bool :=
  first % 16 = 8 && first / 16 ≤ 7 && second / 32 % 2 = 0 && (first * 256 + second) % 31 = 0

def inflate? (b : ByteArray) (limit : Nat) : Option ByteArray :=
  if 2 ≤ b.size && isHeader (Bytes.at0 b 0) (Bytes.at0 b 1) then
    readBlocks b limit (8 * b.size + 1) ⟨16, .empty⟩
  else none

end ImageIntake.Deflate
