import ImageIntake.Proofs.Text.Ascii
import ImageIntake.Proofs.Upload.KeyForm
import Mathlib.Data.List.Count
import Mathlib.Logic.ExistsUnique

namespace ImageIntake

open Text (asciiByte toUTF8_of_ascii)

theorem IsHexDigit.isNameChar {c : Char} (h : IsHexDigit c) : IsNameChar c := by
  rcases h with h | h
  · exact .inr (.inr (.inl h))
  · exact .inr (.inl ⟨h.1, Char.le_trans h.2 (by decide)⟩)

theorem IsNameChar.code {c : Char} (h : IsNameChar c) : 45 ≤ c.toNat ∧ c.toNat ≤ 122 := by
  rcases h with h | h | h | rfl | rfl
  · have hcode : 65 ≤ c.toNat ∧ c.toNat ≤ 90 := h
    omega
  · have hcode : 97 ≤ c.toNat ∧ c.toNat ≤ 122 := h
    omega
  · have hcode : 48 ≤ c.toNat ∧ c.toNat ≤ 57 := h
    omega
  · decide
  · decide

theorem not_isNameChar_slash : ¬IsNameChar '/' := by
  unfold IsNameChar
  decide

theorem not_isNameChar_dot : ¬IsNameChar '.' := by
  unfold IsNameChar
  decide

structure RawKeyParts (key token extension : String) : Prop where
  form : TokenForm token
  known : extension ∈ ["jpg", "png", "webp"]
  eq : key = "raw/" ++ token ++ "." ++ extension

theorem rawKeyForm_iff {key : String} :
    RawKeyForm key ↔ ∃ token extension, RawKeyParts key token extension :=
  ⟨fun ⟨token, extension, htoken, hextension, hkey⟩ => ⟨token, extension, htoken, hextension, hkey⟩,
    fun ⟨token, extension, h⟩ => ⟨token, extension, h.form, h.known, h.eq⟩⟩

namespace RawKeyParts

variable {key token extension : String}

theorem toList_key (h : RawKeyParts key token extension) :
    key.toList = ['r', 'a', 'w'] ++ '/' :: (token.toList ++ '.' :: extension.toList) := by
  rw [h.eq]
  simp [String.toList_append]

theorem isNameChar_token (h : RawKeyParts key token extension) :
    ∀ c ∈ token.toList, IsNameChar c :=
  fun c hc => (h.form.digits c hc).isNameChar

theorem isNameChar_extension (h : RawKeyParts key token extension) :
    ∀ c ∈ extension.toList, IsNameChar c := by
  have hletters : ∀ e ∈ ["jpg", "png", "webp"], ∀ c ∈ e.toList, 'a' ≤ c ∧ c ≤ 'z' := by simp
  exact fun c hc => .inr (.inl (hletters extension h.known c hc))

theorem length_extension_le (h : RawKeyParts key token extension) :
    extension.toList.length ≤ 4 := by
  have hlength : ∀ e ∈ ["jpg", "png", "webp"], e.toList.length ≤ 4 := by decide
  exact hlength extension h.known

theorem isNameChar_raw : ∀ c ∈ ['r', 'a', 'w'], IsNameChar c := by
  have hsmall : ∀ c ∈ ['r', 'a', 'w'], 'a' ≤ c ∧ c ≤ 'z' := by simp
  exact fun c hc => .inr (.inl (hsmall c hc))

theorem isNameChar_or_mark (h : RawKeyParts key token extension) :
    ∀ c ∈ key.toList, IsNameChar c ∨ c = '/' ∨ c = '.' := by
  intro c hc
  rw [h.toList_key] at hc
  rcases List.mem_append.mp hc with hc | hc
  · exact .inl (isNameChar_raw c hc)
  · rcases List.mem_cons.mp hc with hc | hc
    · exact .inr (.inl hc)
    · rcases List.mem_append.mp hc with hc | hc
      · exact .inl (h.isNameChar_token c hc)
      · rcases List.mem_cons.mp hc with hc | hc
        · exact .inr (.inr hc)
        · exact .inl (h.isNameChar_extension c hc)

theorem length_le (h : RawKeyParts key token extension) : key.toList.length ≤ 41 := by
  have hextension := h.length_extension_le
  rw [h.toList_key]
  simp only [List.length_append, List.length_cons, List.length_nil, h.form.length]
  omega

theorem isAscii (h : RawKeyParts key token extension) : ∀ c ∈ key.toList, c.toNat < 128 := by
  intro c hc
  rcases h.isNameChar_or_mark c hc with hname | rfl | rfl
  · have hcode := hname.code
    omega
  · decide
  · decide

theorem utf8ByteSize_le (h : RawKeyParts key token extension) : key.utf8ByteSize ≤ 41 := by
  have hbytes := congrArg List.length (toUTF8_of_ascii h.isAscii)
  rw [List.length_map, Array.length_toList] at hbytes
  have hsize : key.utf8ByteSize = key.toList.length := hbytes
  exact hsize ▸ h.length_le

theorem count_of_mark (h : RawKeyParts key token extension) {mark : Char}
    (hmark : ¬IsNameChar mark) : key.toList.count mark = ['/', '.'].count mark := by
  have hnone {cs : List Char} (hcs : ∀ c ∈ cs, IsNameChar c) : cs.count mark = 0 :=
    List.count_eq_zero_of_not_mem fun hmem => hmark (hcs mark hmem)
  rw [h.toList_key, List.count_append, hnone isNameChar_raw, List.count_cons, List.count_append,
    hnone h.isNameChar_token, List.count_cons, hnone h.isNameChar_extension]
  simp only [List.count_cons, List.count_nil]
  omega

theorem unique {token' extension' : String} (h : RawKeyParts key token extension)
    (h' : RawKeyParts key token' extension') : token' = token ∧ extension' = extension := by
  have hkey := List.append_cancel_left (h'.toList_key.symm.trans h.toList_key)
  have hparts := (List.cons.inj hkey).2
  have hlength : token'.toList.length = token.toList.length := by
    rw [h.form.length, h'.form.length]
  obtain ⟨htoken, hextension⟩ := List.append_inj hparts hlength
  exact ⟨String.toList_injective htoken, String.toList_injective (List.cons.inj hextension).2⟩

end RawKeyParts

theorem isRawKey_decides_form (key : String) :
    (isRawKey key = true ↔ ∃ token extension, RawKeyParts key token extension) ∧
    (isRawKey key = true → ∃! parts : String × String, RawKeyParts key parts.1 parts.2) ∧
    (∀ type token, isRawKey (rawKey type token) = true) ∧
    (isRawKey key = true →
      (∀ c ∈ key.toList, c.toNat < 128) ∧ key.utf8ByteSize ≤ 41 ∧
      key.toList.count '/' = 1 ∧ key.toList.count '.' = 1 ∧
      ∀ post image, key ≠ (PublishedKeys.of post image).full ∧
        key ≠ (PublishedKeys.of post image).thumbnail) := by
  have hform : isRawKey key = true ↔ ∃ token extension, RawKeyParts key token extension :=
    isRawKey_iff.trans rawKeyForm_iff
  refine ⟨hform, fun hkey => ?_, isRawKey_rawKey, fun hkey => ?_⟩
  · obtain ⟨token, extension, h⟩ := hform.mp hkey
    exact ⟨(token, extension), h, fun parts hparts =>
      Prod.ext (h.unique hparts).1 (h.unique hparts).2⟩
  · obtain ⟨token, extension, h⟩ := hform.mp hkey
    refine ⟨h.isAscii, h.utf8ByteSize_le, h.count_of_mark not_isNameChar_slash,
      h.count_of_mark not_isNameChar_dot, fun post image => ⟨?_, ?_⟩⟩
    · exact (PublishedKeys.ne_rawKey (PublishedKeys.has_full _) hkey).symm
    · exact (PublishedKeys.ne_rawKey (PublishedKeys.has_thumbnail _) hkey).symm

theorem isRawKey_decides_form_longest :
    isRawKey "raw/0123456789abcdef0123456789abcdef.webp" = true ∧
      "raw/0123456789abcdef0123456789abcdef.webp".utf8ByteSize ≤ 41 ∧
      ∃! parts : String × String,
        RawKeyParts "raw/0123456789abcdef0123456789abcdef.webp" parts.1 parts.2 := by
  have hkey : isRawKey "raw/0123456789abcdef0123456789abcdef.webp" = true := by decide
  obtain ⟨-, hunique, -, hplain⟩ :=
    isRawKey_decides_form "raw/0123456789abcdef0123456789abcdef.webp"
  exact ⟨hkey, (hplain hkey).2.1, hunique hkey⟩

end ImageIntake
