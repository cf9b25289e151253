import ImageIntake.Binary.Bits
import ImageIntake.Webp.Lossless.Transform

namespace ImageIntake.Webp.Alpha

inductive Filter where
  | none
  | left
  | above
  | gradient
  deriving DecidableEq, Repr

def Filter.ofCode : Nat → Filter
  | 1 => .left
  | 2 => .above
  | 3 => .gradient
  | _ => .none

def sum (a b : UInt32) : UInt8 := (a + b).toUInt8

def guess (filter : Filter) (width : Nat) (out : ByteArray) : UInt32 :=
  let i := out.size
  let left := Bits.byteAt out (i - 1)
  let above := Bits.byteAt out (i - width)
  if i = 0 then 0
  else match filter with
    | .none => 0
    | .left => if i % width = 0 then above else left
    | .above => if i < width then left else above
    | .gradient =>
        if i < width then left
        else if i % width = 0 then above
        else
          let corner := Bits.byteAt out (i - width - 1)
          (min 255 (max 0 ((left.toNat : Int) + above.toNat - corner.toNat))).toNat.toUInt32

def restore (filter : Filter) (width : Nat) (samples : Array UInt32) : ByteArray :=
  samples.foldl (fun out sample => out.push (sum sample (guess filter width out))) .empty

def stored? (b : ByteArray) (method width height : Nat) : Option (Array UInt32) :=
  match method with
  | 0 =>
      if b.size < 1 + width * height then none
      else some (Array.ofFn fun i : Fin (width * height) => Bits.byteAt b (1 + i))
  | 1 => (Lossless.readImage b 8 width height).map fun pixels =>
      pixels.map fun (pixel : UInt32) => (pixel >>> 8) &&& 0xff
  | _ => none

def read? (b : ByteArray) (width height : Nat) : Option ByteArray := do
  guard (0 < b.size)
  let head := (Bits.byteAt b 0).toNat
  let samples ← stored? b (head % 4) width height
  return restore (.ofCode (head / 4 % 4)) width samples

end ImageIntake.Webp.Alpha
