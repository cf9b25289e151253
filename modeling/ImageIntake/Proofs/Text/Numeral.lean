import ImageIntake.Http.HeaderText
import ImageIntake.Proofs.Text.Ascii
import ImageIntake.Proofs.Text.Trim
import ImageIntake.Text.Numeral

namespace ImageIntake.Text

theorem toList_toString (n : Nat) : (toString n).toList = Nat.toDigits 10 n := by
  rw [Nat.toString_eq_ofList_toDigits, String.toList_ofList]

theorem isDigit_of_mem_toString {n : Nat} {c : Char} (h : c ∈ (toString n).toList) :
    c.isDigit = true := by
  rw [toList_toString] at h
  exact Nat.isDigit_of_mem_toDigits (by decide) (by decide) h

theorem toList_toString_ne_nil (n : Nat) : (toString n).toList ≠ [] := by
  rw [toList_toString]
  exact Nat.toDigits_ne_nil

theorem toNat_of_isDigit {c : Char} (h : c.isDigit = true) : 48 ≤ c.toNat ∧ c.toNat ≤ 57 := by
  simp only [Char.isDigit, Bool.and_eq_true, decide_eq_true_eq] at h
  exact h

theorem digitValue?_of_isDigit {c : Char} (h : c.isDigit = true) :
    digitValue? c = some (c.toNat - 48) := by
  simp only [Char.isDigit, Bool.and_eq_true, decide_eq_true_eq] at h
  exact if_pos h

theorem isDigit_of_digitValue? {c : Char} {d : Nat} (h : digitValue? c = some d) :
    c.isDigit = true := by
  rw [digitValue?] at h
  split at h
  · next hc =>
    simp only [Char.isDigit, Bool.and_eq_true, decide_eq_true_eq]
    exact hc
  · cases h

theorem ofDigitChars_cons_eq (c : Char) (ds : List Char) (n : Nat) :
    Nat.ofDigitChars 10 (c :: ds) n = Nat.ofDigitChars 10 ds (n * 10 + (c.toNat - 48)) := by
  rw [Nat.ofDigitChars_cons, Nat.mul_comm]
  rfl

theorem le_ofDigitChars (ds : List Char) (n : Nat) : n ≤ Nat.ofDigitChars 10 ds n := by
  rw [Nat.ofDigitChars_eq_ofDigitChars_zero]
  exact Nat.le_add_right_of_le (Nat.le_mul_of_pos_left _ (Nat.pow_pos (by decide)))

theorem readDigits_of_isDigit {largest : Nat} {digits : List Char} {n : Nat} (hn : n ≤ largest)
    (hdigits : ∀ c ∈ digits, c.isDigit = true) :
    readDigits largest n digits =
      if Nat.ofDigitChars 10 digits n ≤ largest then .ok (Nat.ofDigitChars 10 digits n)
      else .error .tooLarge := by
  induction digits generalizing n with
  | nil => exact (if_pos hn).symm
  | cons c digits ih =>
      obtain ⟨hc, hrest⟩ := List.forall_mem_cons.mp hdigits
      rw [ofDigitChars_cons_eq, readDigits, digitValue?_of_isDigit hc]
      by_cases hle : n * 10 + (c.toNat - 48) ≤ largest
      · simp only [if_pos hle]
        exact ih hle hrest
      · have hgrows := le_ofDigitChars digits (n * 10 + (c.toNat - 48))
        simp only [if_neg hle]
        exact (if_neg fun hall => hle (Nat.le_trans hgrows hall)).symm

theorem isDigit_of_readDigits {largest n m : Nat} {digits : List Char}
    (h : readDigits largest n digits = .ok m) : ∀ c ∈ digits, c.isDigit = true := by
  induction digits generalizing n with
  | nil => exact nofun
  | cons c digits ih =>
      rw [readDigits] at h
      split at h
      · cases h
      · next d hd =>
        split at h
        · exact List.forall_mem_cons.mpr ⟨isDigit_of_digitValue? hd, ih h⟩
        · cases h

theorem readDigits_eq_ok_iff {largest n : Nat} {digits : List Char} :
    readDigits largest 0 digits = .ok n ↔
      (∀ c ∈ digits, c.isDigit = true) ∧ Nat.ofDigitChars 10 digits 0 = n ∧ n ≤ largest := by
  constructor
  · intro h
    have hdigits := isDigit_of_readDigits h
    rw [readDigits_of_isDigit (Nat.zero_le largest) hdigits] at h
    split at h
    · next hle =>
      cases h
      exact ⟨hdigits, rfl, hle⟩
    · cases h
  · rintro ⟨hdigits, rfl, hle⟩
    rw [readDigits_of_isDigit (Nat.zero_le largest) hdigits, if_pos hle]

def Denotes (text : String) (n : Nat) : Prop :=
  ∃ sign digits, text.toList = sign ++ digits ∧ (sign = [] ∨ sign = ['+']) ∧ digits ≠ [] ∧
    (∀ c ∈ digits, c.isDigit = true) ∧ Nat.ofDigitChars 10 digits 0 = n

theorem plus_not_digit {digits : List Char} (h : ∀ c ∈ digits, c.isDigit = true) :
    '+' ∉ digits := fun hmem => absurd (h _ hmem) (by decide)

theorem denotes_plus {text : String} {rest : List Char} (h : text.toList = '+' :: rest) {n : Nat} :
    Denotes text n ↔
      rest ≠ [] ∧ (∀ c ∈ rest, c.isDigit = true) ∧ Nat.ofDigitChars 10 rest 0 = n := by
  constructor
  · rintro ⟨sign, digits, htext, rfl | rfl, hne, hdigits, hvalue⟩
    · rw [h, List.nil_append] at htext
      exact absurd (htext ▸ List.mem_cons_self) (plus_not_digit hdigits)
    · rw [h, List.singleton_append, List.cons.injEq] at htext
      obtain ⟨-, rfl⟩ := htext
      exact ⟨hne, hdigits, hvalue⟩
  · rintro ⟨hne, hdigits, hvalue⟩
    exact ⟨['+'], rest, h, .inr rfl, hne, hdigits, hvalue⟩

theorem denotes_of_not_plus {text : String} (h : ∀ rest, text.toList ≠ '+' :: rest) {n : Nat} :
    Denotes text n ↔ text.toList ≠ [] ∧ (∀ c ∈ text.toList, c.isDigit = true) ∧
      Nat.ofDigitChars 10 text.toList 0 = n := by
  constructor
  · rintro ⟨sign, digits, htext, rfl | rfl, hne, hdigits, hvalue⟩
    · rw [List.nil_append] at htext
      rw [htext]
      exact ⟨hne, hdigits, hvalue⟩
    · exact absurd htext (h digits)
  · rintro ⟨hne, hdigits, hvalue⟩
    exact ⟨[], text.toList, rfl, .inl rfl, hne, hdigits, hvalue⟩

theorem readNumeral_eq_ok_iff {largest n : Nat} {text : String} :
    readNumeral largest text = .ok n ↔ Denotes text n ∧ n ≤ largest := by
  rw [readNumeral]
  split
  · next hnil =>
    rw [denotes_of_not_plus (by simp [hnil])]
    simp [hnil]
  · next hplus =>
    rw [denotes_plus hplus]
    simp
  · next rest hrest hplus =>
    rw [denotes_plus hplus, readDigits_eq_ok_iff]
    have hne : rest ≠ [] := hrest
    rw [and_assoc, and_assoc, and_iff_right hne]
  · next hnil _ hplus =>
    have hne : text.toList ≠ [] := hnil
    rw [denotes_of_not_plus hplus, readDigits_eq_ok_iff, and_assoc, and_assoc,
      and_iff_right hne]

theorem readNumeral_toString (largest n : Nat) :
    readNumeral largest (toString n) = if n ≤ largest then .ok n else .error .tooLarge := by
  have hdigits : ∀ c ∈ (toString n).toList, c.isDigit = true := fun _ => isDigit_of_mem_toString
  have hread := readDigits_of_isDigit (Nat.zero_le largest) hdigits
  have hvalue : Nat.ofDigitChars 10 (toString n).toList 0 = n := by
    rw [toList_toString, Nat.ofDigitChars_ten_toDigits]
  have hplus : '+' ∉ (toString n).toList := fun hmem =>
    absurd (isDigit_of_mem_toString hmem) (by decide)
  rw [hvalue] at hread
  rw [readNumeral]
  split
  · next hnil => exact absurd hnil (toList_toString_ne_nil n)
  · next hone => exact absurd (hone ▸ List.mem_cons_self) hplus
  · next hmore => exact absurd (hmore ▸ List.mem_cons_self) hplus
  · exact hread

theorem isBlank_of_isDigit {c : Char} (h : c.isDigit = true) : isBlank c = false := by
  have hc := toNat_of_isDigit h
  simp only [isBlank, Bool.or_eq_false_iff, Bool.and_eq_false_iff, decide_eq_false_iff_not,
    beq_eq_false_iff_ne]
  omega

theorem trim_toString (n : Nat) : trim (toString n) = toString n :=
  trim_of_not_isBlank fun _ hc => isBlank_of_isDigit (isDigit_of_mem_toString hc)

theorem isHeaderText_toString (n : Nat) : Http.isHeaderText (toString n) = true := by
  have hascii : ∀ c ∈ (toString n).toList, c.toNat < 128 := by
    intro c hc
    have := toNat_of_isDigit (isDigit_of_mem_toString hc)
    omega
  rw [Http.isHeaderText, ← Array.all_toList, toUTF8_of_ascii hascii, List.all_map, List.all_eq_true]
  intro c hc
  have hbounds := toNat_of_isDigit (isDigit_of_mem_toString hc)
  have hbyte : (asciiByte c).toNat = c.toNat := toNat_asciiByte (hascii c hc)
  simp [Http.isFieldByte, UInt8.le_iff_toNat_le, ← UInt8.toNat_inj, hbyte]
  omega

end ImageIntake.Text
