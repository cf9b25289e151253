import ImageIntake.Json.Record
import ImageIntake.Proofs.Text.Ascii

namespace ImageIntake.Json

open Text

def IsPlainByte (b : UInt8) : Prop := b ≠ 0x22 ∧ b ≠ 0x5c ∧ ¬b < 0x20

def StandsForItself (c : Char) : Prop := 32 ≤ c.toNat ∧ c ≠ '"' ∧ c ≠ '\\'

theorem isPlainByte_of_ascii {c : Char} (h : StandsForItself c) (hascii : c.toNat < 128) :
    IsPlainByte (asciiByte c) := by
  obtain ⟨hlow, hquote, hslash⟩ := h
  have hnat : (asciiByte c).toNat = c.toNat := toNat_asciiByte hascii
  refine ⟨fun heq => hquote ?_, fun heq => hslash ?_, fun hlt => ?_⟩
  · have hcode : c.toNat = 34 := by rw [← hnat, heq]; rfl
    exact Char.ext (UInt32.toNat_inj.mp hcode)
  · have hcode : c.toNat = 92 := by rw [← hnat, heq]; rfl
    exact Char.ext (UInt32.toNat_inj.mp hcode)
  · have hcode := UInt8.lt_iff_toNat_lt.mp hlt
    rw [hnat] at hcode
    exact absurd hlow (Nat.not_le.mpr hcode)

theorem isPlainByte_of_le {b : UInt8} (h : 128 ≤ b.toNat) : IsPlainByte b := by
  simp only [IsPlainByte, ne_eq, ← UInt8.toNat_inj, UInt8.lt_iff_toNat_lt, UInt8.reduceToNat]
  omega

theorem le_of_mem_utf8EncodeChar {c : Char} (h : 128 ≤ c.toNat) :
    ∀ b ∈ String.utf8EncodeChar c, 128 ≤ b.toNat := by
  have hbeyond : ¬c.val.toNat ≤ 127 := Nat.not_le.mpr h
  intro b hb
  simp only [String.utf8EncodeChar, if_neg hbeyond] at hb
  split at hb
  · simp only [List.mem_cons, List.not_mem_nil, or_false] at hb
    rcases hb with rfl | rfl <;> (rw [UInt8.toNat_ofNat']; omega)
  · split at hb
    · simp only [List.mem_cons, List.not_mem_nil, or_false] at hb
      rcases hb with rfl | rfl | rfl <;> (rw [UInt8.toNat_ofNat']; omega)
    · simp only [List.mem_cons, List.not_mem_nil, or_false] at hb
      rcases hb with rfl | rfl | rfl | rfl <;> (rw [UInt8.toNat_ofNat']; omega)

theorem StandsForItself.isPlainByte {c : Char} (h : StandsForItself c) :
    ∀ b ∈ String.utf8EncodeChar c, IsPlainByte b := by
  rcases Nat.lt_or_ge c.toNat 128 with hascii | hbeyond
  · rw [utf8EncodeChar_of_ascii hascii]
    intro b hb
    rw [List.mem_singleton.mp hb]
    exact isPlainByte_of_ascii h hascii
  · intro b hb
    exact isPlainByte_of_le (le_of_mem_utf8EncodeChar hbeyond b hb)

theorem readStringBytes_quote (fuel : Nat) (read : ByteArray) (rest : List UInt8) :
    readStringBytes (fuel + 1) read (0x22 :: rest) = some (read, rest) := by
  rw [readStringBytes.eq_def]
  rfl

theorem readStringBytes_plain {b : UInt8} (h : IsPlainByte b) (fuel : Nat) (read : ByteArray)
    (rest : List UInt8) :
    readStringBytes (fuel + 1) read (b :: rest) = readStringBytes fuel (read.push b) rest := by
  obtain ⟨hquote, hslash, hshows⟩ := h
  rw [readStringBytes.eq_def]
  simp only [beq_eq_false_iff_ne.mpr hquote, beq_eq_false_iff_ne.mpr hslash, if_neg hshows,
    Bool.false_eq_true, if_false]

theorem readStringBytes_of_plain {bytes : List UInt8} (h : ∀ b ∈ bytes, IsPlainByte b)
    (fuel : Nat) (read : ByteArray) (rest : List UInt8) :
    readStringBytes (fuel + bytes.length) read (bytes ++ rest) =
      readStringBytes fuel (read ++ bytes.toByteArray) rest := by
  induction bytes generalizing read with
  | nil =>
      rw [List.nil_append]
      simp
  | cons b bytes ih =>
      have hbytes := fun c hc => h c (List.mem_cons_of_mem _ hc)
      have hread : read.push b ++ bytes.toByteArray = read ++ (b :: bytes).toByteArray := by
        apply ByteArray.ext
        simp
      rw [List.length_cons, ← Nat.add_assoc, List.cons_append,
        readStringBytes_plain (h b List.mem_cons_self), ih hbytes, hread]

def escapes : List (UInt8 × Char) :=
  [(0x22, '"'), (0x5c, '\\'), (0x2f, '/'), (0x62, '\x08'), (0x66, '\x0c'), (0x6e, '\n'),
    (0x72, '\r'), (0x74, '\t')]

inductive WritesUnit : Nat → List UInt8 → Prop where
  | digits {a b c d : UInt8} {first second third fourth : Nat} :
      hexValue? (Char.ofNat a.toNat) = some first → hexValue? (Char.ofNat b.toNat) = some second →
      hexValue? (Char.ofNat c.toNat) = some third → hexValue? (Char.ofNat d.toNat) = some fourth →
      WritesUnit (((first * 16 + second) * 16 + third) * 16 + fourth) [a, b, c, d]

inductive WritesChar : Char → List UInt8 → Prop where
  | itself {c : Char} : StandsForItself c → WritesChar c (String.utf8EncodeChar c)
  | escape {c : Char} {letter : UInt8} : (letter, c) ∈ escapes → WritesChar c [0x5c, letter]
  | unit {c : Char} {digits : List UInt8} : WritesUnit c.toNat digits →
      WritesChar c (0x5c :: 0x75 :: digits)
  | pair {c : Char} {first second : Nat} {high low : List UInt8} :
      c.toNat = 0x10000 + first * 0x400 + second → first < 0x400 → second < 0x400 →
      WritesUnit (0xd800 + first) high → WritesUnit (0xdc00 + second) low →
      WritesChar c (0x5c :: 0x75 :: (high ++ 0x5c :: 0x75 :: low))

inductive WritesChars : List Char → List UInt8 → Prop where
  | nil : WritesChars [] []
  | cons {c : Char} {cs : List Char} {first rest : List UInt8} : WritesChar c first →
      WritesChars cs rest → WritesChars (c :: cs) (first ++ rest)

theorem writesChars_self {text : String} (h : ∀ c ∈ text.toList, StandsForItself c) :
    WritesChars text.toList text.toUTF8.data.toList := by
  rw [toUTF8_eq_flatMap]
  generalize text.toList = cs at h
  induction cs with
  | nil => exact .nil
  | cons c cs ih =>
      obtain ⟨hc, hcs⟩ := List.forall_mem_cons.mp h
      exact .cons (.itself hc) (ih hcs)

section

variable {bytes : List UInt8} {c : Char}

theorem WritesUnit.readHexUnit {n : Nat} (h : WritesUnit n bytes) (rest : List UInt8) :
    readHexUnit (bytes ++ rest) = some (n, rest) := by
  cases h with
  | digits ha hb hc hd =>
      simp only [List.cons_append, List.nil_append, Json.readHexUnit, ha, hb, hc, hd,
        Option.bind_eq_bind, Option.bind_some]

theorem WritesUnit.length {n : Nat} (h : WritesUnit n bytes) : bytes.length = 4 := by
  cases h
  rfl

theorem not_surrogate (c : Char) : ¬(0xd800 ≤ c.toNat ∧ c.toNat ≤ 0xdfff) := by
  have hvalid : c.toNat < 0xd800 ∨ 0xdfff < c.toNat ∧ c.toNat < 0x110000 := c.valid
  omega

theorem readEscapedChar_unit (h : WritesUnit c.toNat bytes) (rest : List UInt8) :
    readEscapedChar (bytes ++ rest) = some ((String.singleton c).toUTF8, rest) := by
  have hvalid := not_surrogate c
  have hlow : ¬(0xdc00 ≤ c.toNat ∧ c.toNat ≤ 0xdfff) := by omega
  have hhigh : ¬(0xd800 ≤ c.toNat ∧ c.toNat ≤ 0xdbff) := by omega
  simp only [readEscapedChar, h.readHexUnit, Option.bind_eq_bind, Option.bind_some, if_neg hlow,
    if_neg hhigh, Char.ofNat_toNat]

theorem readEscapedChar_pair {unit low : Nat} {digits digits' : List UInt8}
    (hdigits : WritesUnit unit digits) (hdigits' : WritesUnit low digits')
    (hunit : 0xd800 ≤ unit ∧ unit ≤ 0xdbff) (hlow : 0xdc00 ≤ low ∧ low ≤ 0xdfff)
    (hc : c.toNat = 0x10000 + (unit - 0xd800) * 0x400 + (low - 0xdc00)) (rest : List UInt8) :
    readEscapedChar (digits ++ 0x5c :: 0x75 :: (digits' ++ rest)) =
      some ((String.singleton c).toUTF8, rest) := by
  have hhigh : ¬(0xdc00 ≤ unit ∧ unit ≤ 0xdfff) := by omega
  simp only [readEscapedChar, hdigits.readHexUnit, hdigits'.readHexUnit, Option.bind_eq_bind,
    Option.bind_some, if_neg hhigh, if_pos hunit, if_pos hlow, ← hc, Char.ofNat_toNat]

theorem toUTF8_singleton (c : Char) :
    (String.singleton c).toUTF8 = (String.utf8EncodeChar c).toByteArray := by
  apply ByteArray.ext
  apply Array.toList_inj.mp
  rw [toUTF8_eq_flatMap, String.toList_singleton, List.toList_data_toByteArray]
  simp

theorem toUTF8_of_mem_escapes {letter : UInt8} (h : (letter, c) ∈ escapes) :
    letter ≠ 0x75 ∧ ∃ byte, simpleEscape? letter = some byte ∧
      (String.singleton c).toUTF8 = [byte].toByteArray := by
  simp only [escapes, List.mem_cons, Prod.mk.injEq, List.not_mem_nil, or_false] at h
  rcases h with ⟨rfl, rfl⟩ | ⟨rfl, rfl⟩ | ⟨rfl, rfl⟩ | ⟨rfl, rfl⟩ | ⟨rfl, rfl⟩ | ⟨rfl, rfl⟩ |
    ⟨rfl, rfl⟩ | ⟨rfl, rfl⟩ <;>
  exact ⟨by decide, _, by decide, toUTF8_singleton _⟩

theorem readStringBytes_letter {letter byte : UInt8} (hletter : letter ≠ 0x75)
    (hbyte : simpleEscape? letter = some byte) (fuel : Nat) (read : ByteArray)
    (rest : List UInt8) :
    readStringBytes (fuel + 1) read (0x5c :: letter :: rest) =
      readStringBytes fuel (read.push byte) rest := by
  rw [readStringBytes.eq_def]
  simp only [show ((0x5c : UInt8) == 0x22) = false by decide, beq_self_eq_true, Bool.false_eq_true,
    if_false, if_true, hbyte]

theorem readStringBytes_escaped {bytes : List UInt8} {char : ByteArray} {rest : List UInt8}
    (h : readEscapedChar bytes = some (char, rest)) (fuel : Nat) (read : ByteArray) :
    readStringBytes (fuel + 1) read (0x5c :: 0x75 :: bytes) =
      readStringBytes fuel (read ++ char) rest := by
  rw [readStringBytes.eq_def]
  simp only [show ((0x5c : UInt8) == 0x22) = false by decide, beq_self_eq_true, Bool.false_eq_true,
    if_false, if_true, h]

theorem WritesChar.readStringBytes (h : WritesChar c bytes) {fuel : Nat}
    (hfuel : bytes.length ≤ fuel) (read : ByteArray) (rest : List UInt8) :
    ∃ left, fuel ≤ left + bytes.length ∧
      readStringBytes fuel read (bytes ++ rest) =
        readStringBytes left (read ++ (String.singleton c).toUTF8) rest := by
  obtain ⟨left, rfl⟩ := Nat.exists_eq_add_of_le' hfuel
  cases h with
  | itself hc =>
      refine ⟨left, Nat.le_refl _, ?_⟩
      rw [readStringBytes_of_plain hc.isPlainByte, toUTF8_singleton]
  | escape hmem =>
      obtain ⟨hletter, byte, hbyte, htext⟩ := toUTF8_of_mem_escapes hmem
      have hpush : read.push byte = read ++ [byte].toByteArray := by
        apply ByteArray.ext
        simp
      refine ⟨left + 1, by simp, ?_⟩
      rw [htext, ← hpush]
      exact readStringBytes_letter hletter hbyte (left + 1) read rest
  | unit hunit =>
      refine ⟨left + 5, by simp [hunit.length], ?_⟩
      rw [List.length_cons, List.length_cons, hunit.length]
      exact readStringBytes_escaped (readEscapedChar_unit hunit rest) (left + 5) read
  | @pair first second high low hc hfirst hsecond hhigh hlow =>
      have hread := readEscapedChar_pair hhigh hlow (by omega) (by omega)
        (by rw [Nat.add_sub_cancel_left, Nat.add_sub_cancel_left, hc]) rest
      refine ⟨left + 11, by simp [hhigh.length, hlow.length], ?_⟩
      have hlength : (0x5c :: 0x75 :: (high ++ 0x5c :: 0x75 :: low)).length = 12 := by
        simp [hhigh.length, hlow.length]
      rw [hlength, List.cons_append, List.cons_append, List.append_assoc, List.cons_append,
        List.cons_append]
      exact readStringBytes_escaped hread (left + 11) read

theorem WritesChars.readStringBytes {cs : List Char} (h : WritesChars cs bytes) {fuel : Nat}
    (hfuel : bytes.length < fuel) (read : ByteArray) (rest : List UInt8) :
    readStringBytes fuel read (bytes ++ 0x22 :: rest) =
      some (read ++ (String.ofList cs).toUTF8, rest) := by
  induction h generalizing fuel read with
  | nil =>
      obtain ⟨left, rfl⟩ := Nat.exists_eq_add_of_lt hfuel
      rw [List.nil_append, readStringBytes_quote]
      simp
  | @cons c cs first others hc _ ih =>
      have hlength : first.length + others.length < fuel := by simpa using hfuel
      have hfirst : first.length ≤ fuel := by omega
      obtain ⟨left, hleft, hread⟩ := hc.readStringBytes hfirst read (others ++ 0x22 :: rest)
      have htext : (String.ofList (c :: cs)).toUTF8 =
          (String.singleton c).toUTF8 ++ (String.ofList cs).toUTF8 := by
        rw [String.ofList_cons]
        exact String.toByteArray_append
      rw [List.append_assoc, hread, ih (by omega), htext, ByteArray.append_assoc]

theorem WritesChars.readString {text : String} (h : WritesChars text.toList bytes)
    (rest : List UInt8) : readString (bytes ++ 0x22 :: rest) = some (text, rest) := by
  have hfuel : bytes.length < (bytes ++ 0x22 :: rest).length + 1 := by
    simp only [List.length_append]
    omega
  have hbytes : ByteArray.empty ++ text.toUTF8 = text.toUTF8 := by
    apply ByteArray.ext
    simp
  rw [Json.readString, h.readStringBytes hfuel, String.ofList_toList]
  simp only [hbytes, Option.bind_eq_bind, Option.bind_some, fromUTF8?_toUTF8]

end

end ImageIntake.Json
