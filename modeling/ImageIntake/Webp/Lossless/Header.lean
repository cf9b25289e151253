import ImageIntake.Binary.Bytes

namespace ImageIntake.Webp.Lossless

open Bytes

structure Header where
  width : Nat
  height : Nat
  hasAlpha : Bool
  deriving DecidableEq, Repr

namespace Header

def mark : UInt8 := 0x2f

def sideLimit : Nat := 0x4000

def word (h : Header) : Nat :=
  h.width - 1 + (h.height - 1) <<< 14 + (if h.hasAlpha then 1 <<< 28 else 0)

def toByteArray (h : Header) : ByteArray := ⟨(mark :: ofWord32 .little h.word).toArray⟩

def ofWord? (word : Nat) : Option Header :=
  if 1 <<< 29 ≤ word then none
  else some ⟨word % sideLimit + 1, word >>> 14 % sideLimit + 1, word >>> 28 % 2 = 1⟩

def read? (b : ByteArray) (place : Nat) : Option Header :=
  if b.size < place + 5 ∨ at0 b place ≠ mark.toNat then none
  else ofWord? (word32 .little b (place + 1))

theorem ofWord?_word {h : Header} (hw : 0 < h.width ∧ h.width ≤ sideLimit)
    (hh : 0 < h.height ∧ h.height ≤ sideLimit) : ofWord? h.word = some h := by
  obtain ⟨width, height, hasAlpha⟩ := h
  simp only [sideLimit] at hw hh
  cases hasAlpha <;> simp [ofWord?, word, sideLimit, Nat.shiftLeft_eq, Nat.shiftRight_eq_div_pow] <;> omega

end Header

end ImageIntake.Webp.Lossless
