import Mathlib.Data.List.Basic

namespace ImageIntake.Text

theorem listed_eq (bytes : ByteArray) (i : Nat) (read : List UInt8) :
    ByteArray.toList.loop bytes i read = read.reverse ++ bytes.data.toList.drop i := by
  fun_induction ByteArray.toList.loop bytes i read with
  | case1 i read hi ih =>
      have hi' : i < bytes.data.toList.length := by simpa using hi
      have hget : bytes.get! i = bytes.data.toList[i] := by simp [ByteArray.get!, hi]
      rw [ih, List.reverse_cons, List.append_assoc, hget, List.drop_eq_getElem_cons hi']
      rfl
  | case2 i read hi =>
      have hnil : bytes.data.toList.drop i = [] := List.drop_eq_nil_of_le (by simpa using hi)
      rw [hnil, List.append_nil]

theorem toList_eq_data (bytes : ByteArray) : bytes.toList = bytes.data.toList := by
  rw [ByteArray.toList, listed_eq]
  rfl

theorem toUTF8_eq_flatMap (s : String) :
    s.toUTF8.data.toList = s.toList.flatMap String.utf8EncodeChar := by
  rw [String.toUTF8_eq_toByteArray, ← String.utf8Encode_toList, List.utf8Encode,
    List.toList_data_toByteArray]

theorem toUTF8_append (s t : String) :
    (s ++ t).toUTF8.data.toList = s.toUTF8.data.toList ++ t.toUTF8.data.toList := by
  rw [toUTF8_eq_flatMap, String.toList_append, List.flatMap_append, ← toUTF8_eq_flatMap,
    ← toUTF8_eq_flatMap]

def asciiByte (c : Char) : UInt8 := UInt8.ofNat c.toNat

theorem toNat_asciiByte {c : Char} (h : c.toNat < 128) : (asciiByte c).toNat = c.toNat := by
  rw [asciiByte, UInt8.toNat_ofNat']
  omega

theorem utf8EncodeChar_of_ascii {c : Char} (h : c.toNat < 128) :
    String.utf8EncodeChar c = [asciiByte c] := by
  have hle : c.val.toNat ≤ 0x7f := Nat.le_of_lt_succ h
  rw [String.utf8EncodeChar]
  simp only [if_pos hle]
  rfl

theorem toUTF8_of_ascii {s : String} (h : ∀ c ∈ s.toList, c.toNat < 128) :
    s.toUTF8.data.toList = s.toList.map asciiByte := by
  rw [toUTF8_eq_flatMap, List.map_eq_flatMap]
  exact List.flatMap_congr fun c hc => utf8EncodeChar_of_ascii (h c hc)

theorem toNat_ofNat_byte (b : UInt8) : (Char.ofNat b.toNat).toNat = b.toNat := by
  have hb : b.toNat < 256 := b.toNat_lt
  have hvalid : b.toNat.isValidChar := .inl (by omega)
  rw [Char.ofNat, dif_pos hvalid]
  rfl

theorem asciiByte_ofNat (b : UInt8) : asciiByte (Char.ofNat b.toNat) = b := by
  rw [asciiByte, toNat_ofNat_byte, UInt8.ofNat_toNat]

theorem ascii_of_toUTF8 {s : String} (h : ∀ b ∈ s.toUTF8.data.toList, b.toNat < 128) :
    ∀ c ∈ s.toList, c.toNat < 128 := by
  let cs := s.toUTF8.data.toList.map fun b => Char.ofNat b.toNat
  have hcs : ∀ c ∈ (String.ofList cs).toList, c.toNat < 128 := by
    intro c hc
    rw [String.toList_ofList] at hc
    obtain ⟨b, hb, rfl⟩ := List.mem_map.mp hc
    rw [toNat_ofNat_byte]
    exact h b hb
  -- the ASCII text made of the bytes has the same bytes
  have hbytes : (String.ofList cs).toUTF8.data.toList = s.toUTF8.data.toList := by
    rw [toUTF8_of_ascii hcs, String.toList_ofList, List.map_map]
    exact List.map_id'' asciiByte_ofNat _
  have hs : String.ofList cs = s :=
    String.toByteArray_inj.mp (ByteArray.ext (Array.toList_inj.mp hbytes))
  rwa [hs] at hcs

theorem fromUTF8?_toUTF8 (s : String) : String.fromUTF8? s.toUTF8 = some s := by
  rw [String.fromUTF8?, dif_pos (by rw [String.toUTF8_eq_toByteArray]; exact s.isValidUTF8)]
  rfl

end ImageIntake.Text
