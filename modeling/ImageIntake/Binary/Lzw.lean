import ImageIntake.Binary.Bits

namespace ImageIntake.Lzw

structure Table where
  stems : Array Nat
  lastBytes : ByteArray
  firstBytes : ByteArray
  lengths : Array Nat

namespace Table

def initial (codeBits : Nat) : Table :=
  let count := 1 <<< codeBits + 2
  let bytes : ByteArray := ⟨Array.ofFn fun i : Fin count => i.val.toUInt8⟩
  ⟨Array.replicate count 0, bytes, bytes, Array.replicate count 1⟩

def size (t : Table) : Nat := t.stems.size

def add (t : Table) (stem : Nat) (last : UInt8) : Table :=
  let ⟨stems, lastBytes, firstBytes, lengths⟩ := t
  let first := firstBytes.get! stem
  let length := lengths.getD stem 0 + 1
  ⟨stems.push stem, lastBytes.push last, firstBytes.push first, lengths.push length⟩

def writeBack (t : Table) : (left : Nat) → (code place : Nat) → ByteArray → ByteArray
  | 0, _, _, out => out
  | left + 1, code, place, out =>
      writeBack t left (t.stems.getD code 0) (place - 1) (out.set! place (t.lastBytes.get! code))

def append (t : Table) (code : Nat) (out : ByteArray) : ByteArray :=
  let length := t.lengths.getD code 0
  let size := out.size
  writeBack t length code (size + length - 1) (out ++ ⟨Array.replicate length 0⟩)

end Table

def maxWidth : Nat := 12

def widthFor (codeBits size : Nat) : Nat := min maxWidth (max (codeBits + 1) (Nat.log2 size + 1))

def readCodes (b : ByteArray) (codeBits limit : Nat) :
    (fuel place : Nat) → (last : Option Nat) → Table → ByteArray → Option ByteArray
  | 0, _, _, _, _ => none
  | fuel + 1, place, last, table, out =>
      if limit ≤ out.size then some (out.extract 0 limit)
      else
        let width := widthFor codeBits (if last.isNone then 0 else table.size)
        let code := Bits.low b place width
        let place := place + width
        let reset := 1 <<< codeBits
        if 8 * b.size < place then none
        else if code = reset then
          readCodes b codeBits limit fuel place none (.initial codeBits) out
        else if code = reset + 1 then none
        else match last with
          | none =>
              if reset < code then none
              else readCodes b codeBits limit fuel place (some code) table (table.append code out)
          | some previous =>
              if table.size < code ∨ (table.size = code ∧ 4096 ≤ table.size) then none
              else
                let first := table.firstBytes.get! (if code = table.size then previous else code)
                let table := if table.size < 4096 then table.add previous first else table
                readCodes b codeBits limit fuel place (some code) table (table.append code out)

def expand? (b : ByteArray) (codeBits limit : Nat) : Option ByteArray :=
  readCodes b codeBits limit (8 * b.size + 1) 0 none (.initial codeBits) .empty

end ImageIntake.Lzw
