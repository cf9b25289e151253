import ImageIntake.Binary.Bytes
import ImageIntake.Picture.Format
import ImageIntake.Picture.Upright

namespace ImageIntake.Exif

open Bytes

inductive Directory where
  | main
  | exif
  | position
  | interoperability
  deriving DecidableEq, Repr

structure Field where
  tag : Nat
  type : Nat
  count : Nat
  offset : Nat

def elementSize (type : Nat) : Nat :=
  match type with
  | 1 => 1
  | 2 => 1
  | 3 => 2
  | 4 => 4
  | 5 => 8
  | 6 => 1
  | 7 => 1
  | 8 => 2
  | 9 => 4
  | 10 => 8
  | 11 => 4
  | 12 => 8
  | _ => 0

def Field.number? (order : ByteOrder) (data : ByteArray) (f : Field) : Option Nat :=
  if f.count = 0 then none
  else match f.type with
    | 1 => some (at0 data f.offset)
    | 3 => some (word16 order data f.offset)
    | 4 => some (word32 order data f.offset)
    | _ => none

def child? (directory : Directory) (tag : Nat) : Option Directory :=
  match directory, tag with
  | .main, 0x8769 => some .exif
  | .main, 0x8825 => some .position
  | .exif, 0xa005 => some .interoperability
  | _, _ => none

def readEntry (order : ByteOrder) (data : ByteArray) (offset : Nat) : Option Field :=
  let type := word16 order data (offset + 2)
  let count := word32 order data (offset + 4)
  let size := elementSize type * count
  let place := if size ≤ 4 then offset + 8 else word32 order data (offset + 8)
  if 4 < size && data.size < place + size then none
  else some ⟨word16 order data offset, type, count, place⟩

def readDirectory (order : ByteOrder) (data : ByteArray) :
    Nat → Directory → Nat → Option (List Field × Nat)
  | 0, _, _ => none
  | depth + 1, directory, offset =>
      let rec readEntries : Nat → Nat → List Field → Option (List Field × Nat)
        | 0, place, fields => if data.size < place + 4 then none
            else some (fields, word32 order data place)
        | left + 1, place, fields =>
            if data.size < place + 12 then none
            else match readEntry order data place with
              | none => none
              | some field =>
                  match child? directory field.tag with
                  | none => readEntries left (place + 12) (field :: fields)
                  | some below =>
                      match field.number? order data with
                      | none => none
                      | some target =>
                          match readDirectory order data depth below target with
                          | some (_, 0) => readEntries left (place + 12) fields
                          | _ => none
      if data.size < offset + 2 then none
      else readEntries (word16 order data offset) (offset + 2) []

def maxDepth : Nat := 3

def readChain (order : ByteOrder) (data : ByteArray) : Nat → Nat → Option (List Field)
  | image, offset =>
      if offset = 0 then some []
      else if _h : 8 ≤ image then none
      else match readDirectory order data maxDepth .main offset with
        | none => none
        | some (fields, next) => (readChain order data (image + 1) next).map fun _ => fields
termination_by image => 8 - image

def orientationTag : Nat := 0x112

def byteOrder? (data : ByteArray) : Option ByteOrder :=
  if data.size < 8 then none
  else if hasText data 0 "MM" then if word16 .big data 2 = 42 then some .big else none
  else if hasText data 0 "II" then if word16 .little data 2 = 42 then some .little else none
  else none

def orientation? (data : ByteArray) : Option Nat := do
  let order ← byteOrder? data
  let fields ← readChain order data 0 (word32 order data 4)
  let field ← fields.find? fun f => f.tag == orientationTag
  field.number? order data

def jpegMark : List UInt8 := [0x45, 0x78, 0x69, 0x66, 0, 0]

def findInJpeg (b : ByteArray) (fuel i : Nat) : Option ByteArray :=
  match fuel with
  | 0 => none
  | fuel + 1 =>
      if b.size ≤ i then none
      else if at0 b i ≠ 0xff then findInJpeg b fuel (i + 1)
      else
        let code := at0 b (i + 1)
        if b.size ≤ i + 1 then none
        else if code = 0xff then findInJpeg b fuel (i + 1)
        else if code = 0 ∨ code = 1 ∨ (0xd0 ≤ code ∧ code ≤ 0xd7) then findInJpeg b fuel (i + 2)
        else if code = 0xd9 then none
        else
          let length := word16 .big b (i + 2)
          if b.size < i + 4 ∨ length < 2 then none
          else
            let segment := b.extract (i + 4) (i + 2 + length)
            if code = 0xe1 ∧ hasBytes segment 0 jpegMark then
              some (dropFront segment jpegMark.length)
            else findInJpeg b fuel (i + 2 + length)

def findInPng (b : ByteArray) (fuel i : Nat) : Option ByteArray :=
  match fuel with
  | 0 => none
  | fuel + 1 =>
      if b.size < i + 8 then none
      else
        let length := word32 .big b i
        if hasText b (i + 4) "eXIf" then
          if b.size < i + 8 + length then none else some (b.extract (i + 8) (i + 8 + length))
        else if b.size < i + 12 + length then none
        else findInPng b fuel (i + 12 + length)

def findInWebp (b : ByteArray) (fuel left i : Nat) : Option ByteArray :=
  match fuel with
  | 0 => none
  | fuel + 1 =>
      if left < 8 ∨ b.size < i + 8 then none
      else
        let length := word32 .little b (i + 4)
        let padded := length + length % 2
        if hasText b i "EXIF" then
          if b.size < i + 8 + length then none else some (b.extract (i + 8) (i + 8 + length))
        else if left < 8 + padded ∨ b.size < i + 8 + padded then none
        else findInWebp b fuel (left - 8 - padded) (i + 8 + padded)

def find? (b : ByteArray) : Option ByteArray :=
  if hasBytes b 0 [0xff, 0xd8] then findInJpeg b b.size 2
  else if hasBytes b 0 FileFormat.pngSignature then findInPng b b.size 8
  else if hasText b 0 "RIFF" && hasText b 8 "WEBP" then
    findInWebp b b.size (word32 .little b 4 - 4) 12
  else if hasText b 0 "MM" || hasText b 0 "II" then some b
  else none

def recordedTag? (file : ByteArray) : Option Nat := (find? file).bind orientation?

end ImageIntake.Exif
