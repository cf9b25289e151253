import ImageIntake.Webp.Writer

namespace ImageIntake

namespace Bytes

variable {b : ByteArray} {front back rest : List UInt8}

theorem at0_of_toList (hb : b.data.toList = front ++ back) (k : Nat) :
    at0 b (front.length + k) = (back[k]?.map UInt8.toNat).getD 0 := by
  have hget : b.data[front.length + k]? = back[k]? := by
    rw [← Array.getElem?_toList, hb, List.getElem?_append_right (Nat.le_add_right ..),
      Nat.add_sub_cancel_left]
  rw [← hget, at0]
  by_cases h : front.length + k < b.size
  · rw [dif_pos h, Array.getElem?_eq_getElem h]
    rfl
  · rw [dif_neg h, Array.getElem?_eq_none (Nat.le_of_not_lt h)]
    rfl

theorem word32_of_toList {n : Nat} (hn : n < 4294967296)
    (hb : b.data.toList = front ++ (ofWord32 .little n ++ rest)) :
    word32 .little b front.length = n := by
  have h0 := at0_of_toList hb 0
  have h1 := at0_of_toList hb 1
  have h2 := at0_of_toList hb 2
  have h3 := at0_of_toList hb 3
  simp only [ofWord32, List.cons_append, List.nil_append, List.getElem?_cons_zero,
    List.getElem?_cons_succ, Option.map_some, Option.getD_some, UInt8.toNat_ofNat',
    Nat.add_zero] at h0 h1 h2 h3
  simp only [word32, word16, Nat.add_assoc, h0, h1, h2, h3]
  omega

end Bytes

namespace Webp

open Bytes

theorem Lossless.Header.word_lt {h : Header} (hw : 0 < h.width ∧ h.width ≤ sideLimit)
    (hh : 0 < h.height ∧ h.height ≤ sideLimit) : h.word < 4294967296 := by
  simp only [sideLimit] at hw hh
  simp only [word, Nat.shiftLeft_eq]
  split <;> omega

theorem Lossless.Header.read?_of_toList {b : ByteArray} {front rest : List UInt8} {h : Header}
    (hb : b.data.toList = front ++ (h.toByteArray.data.toList ++ rest))
    (hw : 0 < h.width ∧ h.width ≤ sideLimit) (hh : 0 < h.height ∧ h.height ≤ sideLimit) :
    read? b front.length = some h := by
  have hsize : front.length + 5 ≤ b.size := by
    have hlength := congrArg List.length hb
    simp only [toByteArray, ofWord32, Array.length_toList, List.length_append, List.length_cons,
      List.length_nil] at hlength
    rw [← ByteArray.size_data, hlength]
    omega
  have hmark : at0 b front.length = mark.toNat := at0_of_toList hb 0
  have hword : word32 .little b (front.length + 1) = h.word := by
    have hb' : b.data.toList = (front ++ [mark]) ++ (ofWord32 .little h.word ++ rest) := by
      rw [hb, List.append_assoc]
      rfl
    have hread := word32_of_toList (word_lt hw hh) hb'
    rwa [List.length_append] at hread
  have hgood : ¬(b.size < front.length + 5 ∨ at0 b front.length ≠ mark.toNat) := by omega
  rw [read?, if_neg hgood, hword, ofWord?_word hw hh]

theorem toList_chunk (name : String) (content : ByteArray) :
    ∃ rest, (chunk name content).data.toList =
      (name.toUTF8.data.toList ++ ofWord32 .little content.size) ++
        (content.data.toList ++ rest) := by
  rw [chunk]
  split
  · refine ⟨[], ?_⟩
    simp only [ByteArray.data_append, Array.toList_append, List.append_nil]
  · refine ⟨[0], ?_⟩
    simp only [ByteArray.data_append, Array.toList_append, ByteArray.data_push, Array.toList_push]

def headerPlace : Nat := 20

theorem read?_encode {p : Picture} (hw : p.width ≤ Lossless.Header.sideLimit)
    (hh : p.height ≤ Lossless.Header.sideLimit) :
    Lossless.Header.read? (encode p) headerPlace = some ⟨p.width, p.height, p.hasAlpha⟩ := by
  let header : Lossless.Header := ⟨p.width, p.height, p.hasAlpha⟩
  let image := chunk "VP8L" (header.toByteArray ++ losslessBits p)
  obtain ⟨pad, himage⟩ := toList_chunk "VP8L" (header.toByteArray ++ losslessBits p)
  obtain ⟨pad', hfile⟩ := toList_chunk "RIFF" ("WEBP".toUTF8 ++ image)
  let front := ("RIFF".toUTF8.data.toList ++ ofWord32 .little ("WEBP".toUTF8 ++ image).size) ++
    ("WEBP".toUTF8.data.toList ++ ("VP8L".toUTF8.data.toList ++
      ofWord32 .little (header.toByteArray ++ losslessBits p).size))
  have hb : (encode p).data.toList =
      front ++ (header.toByteArray.data.toList ++
        ((losslessBits p).data.toList ++ pad ++ pad')) := by
    show (chunk "RIFF" ("WEBP".toUTF8 ++ image)).data.toList = _
    simp only [hfile, ByteArray.data_append, Array.toList_append, image, himage, front,
      List.append_assoc]
  have hfront : front.length = headerPlace := by
    have hriff : "RIFF".toUTF8.data.toList.length = 4 := by decide +kernel
    have hwebp : "WEBP".toUTF8.data.toList.length = 4 := by decide +kernel
    have hvp8l : "VP8L".toUTF8.data.toList.length = 4 := by decide +kernel
    simp only [front, List.length_append, hriff, hwebp, hvp8l]
    rfl
  rw [← hfront]
  exact Lossless.Header.read?_of_toList hb ⟨p.width_pos, hw⟩ ⟨p.height_pos, hh⟩

def size? (file : ByteArray) : Option (Nat × Nat) :=
  (Lossless.Header.read? file headerPlace).map fun h => (h.width, h.height)

theorem size?_encode {p : Picture} (hw : p.width ≤ Lossless.Header.sideLimit)
    (hh : p.height ≤ Lossless.Header.sideLimit) : size? (encode p) = some (p.width, p.height) := by
  rw [size?, read?_encode hw hh, Option.map_some]

end Webp

end ImageIntake
