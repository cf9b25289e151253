import ImageIntake.Proofs.Text.Numeral
import ImageIntake.Text.Percent

namespace ImageIntake.Text

theorem percentDecode_of_ne {b : UInt8} (h : b ≠ 0x25) (rest : List UInt8) :
    percentDecode (b :: rest) = b :: percentDecode rest := by
  rw [percentDecode]
  intro high low rest' hb
  exact absurd hb h

theorem percentDecode_of_digits {high low : UInt8} {m n : Nat} (hhigh : hexByteValue? high = some m)
    (hlow : hexByteValue? low = some n) (rest : List UInt8) :
    percentDecode (0x25 :: high :: low :: rest) =
      UInt8.ofNat (m * 16 + n) :: percentDecode rest := by
  rw [percentDecode]
  simp only [hhigh, hlow]

theorem percentDecode_of_not_digits {high low : UInt8}
    (h : hexByteValue? high = none ∨ hexByteValue? low = none) (rest : List UInt8) :
    percentDecode (0x25 :: high :: low :: rest) = 0x25 :: percentDecode (high :: low :: rest) := by
  rw [percentDecode]
  split
  · next hhigh hlow => simp [hhigh, hlow] at h
  · rfl

theorem percentDecode_slash (front rest : List UInt8) :
    percentDecode (front ++ 47 :: rest) = percentDecode front ++ 47 :: percentDecode rest := by
  have hslash : hexByteValue? 47 = none := by decide
  have hplain : percentDecode (47 :: rest) = 47 :: percentDecode rest :=
    percentDecode_of_ne (by decide) rest
  fun_induction percentDecode front with
  | case1 high low tail m n hlow hhigh ih =>
      simp only [List.cons_append, percentDecode_of_digits hhigh hlow, ih]
  | case2 high low tail h ih =>
      have hnone : hexByteValue? high = none ∨ hexByteValue? low = none := by
        cases hhigh : hexByteValue? high with
        | none => exact .inl rfl
        | some m =>
            cases hlow : hexByteValue? low with
            | none => exact .inr rfl
            | some n => exact absurd hlow (h m n hhigh)
      simp only [List.cons_append] at ih ⊢
      rw [percentDecode_of_not_digits hnone, ih]
  | case3 b tail h ih =>
      rw [List.cons_append, List.cons_append, ← ih]
      by_cases hb : b = 0x25
      · subst hb
        match tail, h with
        | [], _ =>
            cases rest with
            | nil => rfl
            | cons c rest => exact percentDecode_of_not_digits (.inl hslash) rest
        | [c], _ => exact percentDecode_of_not_digits (.inr hslash) rest
        | c :: d :: tail, h => exact absurd rfl (h c d tail rfl)
      · exact percentDecode_of_ne hb _
  | case4 => exact hplain

def escape (keeps : UInt8 → Bool) (b : UInt8) : List Char :=
  if keeps b then [Char.ofNat b.toNat]
  else ['%', upperHexDigit (b.toNat / 16), upperHexDigit (b.toNat % 16)]

variable {keeps : UInt8 → Bool}

theorem percentEncode_cons (b : UInt8) (bytes : List UInt8) :
    percentEncode keeps (b :: bytes) = escape keeps b ++ percentEncode keeps bytes := rfl

theorem upperHexDigit_lt {n : Nat} (h : n < 16) : (upperHexDigit n).toNat < 128 := by
  have hall : ∀ i : Fin 16, (upperHexDigit i).toNat < 128 := by decide
  exact hall ⟨n, h⟩

theorem hexByteValue?_upperHexDigit {n : Nat} (h : n < 16) :
    hexByteValue? (asciiByte (upperHexDigit n)) = some n := by
  have hall : ∀ i : Fin 16, hexByteValue? (asciiByte (upperHexDigit i)) = some i.val := by decide
  exact hall ⟨n, h⟩

structure Reversible (keeps : UInt8 → Bool) : Prop where
  ascii : ∀ b, keeps b = true → b.toNat < 128
  percent : keeps 0x25 = false

theorem Reversible.lt_of_mem_escape (h : Reversible keeps) {b : UInt8} {c : Char}
    (hc : c ∈ escape keeps b) : c.toNat < 128 := by
  have hlt := b.toNat_lt
  rw [escape] at hc
  split at hc
  · next hkeeps =>
    rw [List.mem_singleton.mp hc, toNat_ofNat_byte]
    exact h.ascii b hkeeps
  · simp only [List.mem_cons, List.not_mem_nil, or_false] at hc
    rcases hc with rfl | rfl | rfl
    · decide
    · exact upperHexDigit_lt (by omega)
    · exact upperHexDigit_lt (by omega)

theorem Reversible.decode_escape (h : Reversible keeps) (b : UInt8) (rest : List UInt8) :
    percentDecode ((escape keeps b).map asciiByte ++ rest) = b :: percentDecode rest := by
  have hlt := b.toNat_lt
  cases hkeeps : keeps b with
  | true =>
      have hne : b ≠ 0x25 := by
        rintro rfl
        rw [h.percent] at hkeeps
        cases hkeeps
      simp only [escape, hkeeps, if_true, List.map_cons, List.map_nil, List.cons_append,
        List.nil_append, asciiByte_ofNat]
      exact percentDecode_of_ne hne rest
  | false =>
      have hvalue : b.toNat / 16 * 16 + b.toNat % 16 = b.toNat := by omega
      simp only [escape, hkeeps, Bool.false_eq_true, if_false, List.map_cons, List.map_nil,
        List.cons_append, List.nil_append]
      refine (percentDecode_of_digits (hexByteValue?_upperHexDigit (by omega))
        (hexByteValue?_upperHexDigit (by omega)) rest).trans ?_
      rw [hvalue, UInt8.ofNat_toNat]

theorem Reversible.decode_encode (h : Reversible keeps) (bytes : List UInt8) :
    percentDecode ((percentEncode keeps bytes).map asciiByte) = bytes := by
  induction bytes with
  | nil => rfl
  | cons b bytes ih =>
      rw [percentEncode_cons, List.map_append, h.decode_escape, ih]

theorem isUnreserved_lt {b : UInt8} (h : isUnreserved b = true) : b.toNat < 128 := by
  simp [isUnreserved, UInt8.le_iff_toNat_le, ← UInt8.toNat_inj] at h
  omega

theorem reversible_path : Reversible fun b => isUnreserved b || b == 47 where
  ascii b h := by
    rcases Bool.or_eq_true_iff.mp h with h | h
    · exact isUnreserved_lt h
    · rw [eq_of_beq h]
      decide
  percent := by decide

def decodedPath (path : String) : List UInt8 := percentDecode path.toUTF8.data.toList

theorem decodedPath_escapePath (s : String) :
    decodedPath (escapePath s) = s.toUTF8.data.toList := by
  have hascii : ∀ c ∈ (escapePath s).toList, c.toNat < 128 := by
    intro c hc
    rw [escapePath, String.toList_ofList] at hc
    obtain ⟨b, -, hb⟩ := List.mem_flatMap.mp hc
    exact reversible_path.lt_of_mem_escape hb
  rw [decodedPath, toUTF8_of_ascii hascii, escapePath, String.toList_ofList,
    reversible_path.decode_encode, toList_eq_data]

theorem decodedPath_append_slash (base rest : String) :
    decodedPath (base ++ "/" ++ rest) = decodedPath base ++ 47 :: decodedPath rest := by
  have hslash : ("/" : String).toUTF8.data.toList = [47] := by decide
  rw [decodedPath, toUTF8_append, toUTF8_append, hslash, List.append_assoc]
  exact percentDecode_slash _ _

theorem decodedPath_escapePath_injective {base s t : String}
    (h : decodedPath (base ++ "/" ++ escapePath s) = decodedPath (base ++ "/" ++ escapePath t)) :
    s = t := by
  rw [decodedPath_append_slash, decodedPath_append_slash, decodedPath_escapePath,
    decodedPath_escapePath] at h
  have hbytes := (List.cons.inj (List.append_cancel_left h)).2
  exact String.toByteArray_inj.mp (ByteArray.ext (Array.toList_inj.mp hbytes))

def IsUnescaped (c : Char) : Prop := c.toNat < 128 ∧ isUnreserved (asciiByte c) = true

theorem IsUnescaped.escape_eq {c : Char} (h : IsUnescaped c) :
    escape isUnreserved (asciiByte c) = [c] := by
  rw [escape, if_pos h.2, toNat_asciiByte h.1, Char.ofNat_toNat]

theorem isUnescaped_of_isDigit {c : Char} (h : c.isDigit = true) : IsUnescaped c := by
  have hbounds := toNat_of_isDigit h
  have hascii : c.toNat < 128 := by omega
  refine ⟨hascii, ?_⟩
  simp [isUnreserved, UInt8.le_iff_toNat_le, toNat_asciiByte hascii]
  omega

theorem escapeUnreserved_eq {s : String} (h : ∀ c ∈ s.toList, IsUnescaped c) :
    escapeUnreserved s = s := by
  have hescape : ∀ c ∈ s.toList, escape isUnreserved (asciiByte c) = [c] :=
    fun c hc => (h c hc).escape_eq
  rw [escapeUnreserved, toList_eq_data, toUTF8_of_ascii fun c hc => (h c hc).1, ← String.toList_inj,
    String.toList_ofList]
  show (s.toList.map asciiByte).flatMap (escape isUnreserved) = s.toList
  rw [List.flatMap_map, List.flatMap_congr hescape, List.flatMap_singleton']

theorem escapeUnreserved_toString (n : Nat) : escapeUnreserved (toString n) = toString n :=
  escapeUnreserved_eq fun _ hc => isUnescaped_of_isDigit (isDigit_of_mem_toString hc)

end ImageIntake.Text
