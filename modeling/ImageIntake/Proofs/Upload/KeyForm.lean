import ImageIntake.Proofs.Upload.Key
import Mathlib.Data.List.TakeDrop

namespace ImageIntake

def IsHexDigit (c : Char) : Prop := ('0' ≤ c ∧ c ≤ '9') ∨ ('a' ≤ c ∧ c ≤ 'f')

def IsNameChar (c : Char) : Prop :=
  ('A' ≤ c ∧ c ≤ 'Z') ∨ ('a' ≤ c ∧ c ≤ 'z') ∨ ('0' ≤ c ∧ c ≤ '9') ∨ c = '_' ∨ c = '-'

structure TokenForm (text : String) : Prop where
  length : text.toList.length = 32
  digits : ∀ c ∈ text.toList, IsHexDigit c

structure PostForm (post : String) : Prop where
  nonempty : 1 ≤ post.toList.length
  short : post.toList.length ≤ 128
  chars : ∀ c ∈ post.toList, IsNameChar c

def RawKeyForm (key : String) : Prop :=
  ∃ token extension, TokenForm token ∧ extension ∈ ["jpg", "png", "webp"] ∧
    key = "raw/" ++ token ++ "." ++ extension

def PublishedKeyForm (post image key : String) : Prop :=
  PostForm post ∧ TokenForm image ∧
    (key = "public/showoff/" ++ post ++ "/" ++ image ++ ".webp" ∨
      key = "public/showoff/" ++ post ++ "/" ++ image ++ "_thumb.webp")

theorem isTokenChar_iff {c : Char} : isTokenChar c = true ↔ IsHexDigit c := by
  simp only [isTokenChar, IsHexDigit, Char.isDigit, Bool.or_eq_true, Bool.and_eq_true,
    decide_eq_true_eq]
  rfl

theorem isPostChar_iff {c : Char} : isPostChar c = true ↔ IsNameChar c := by
  have halphanum : c.isAlphanum = (c.isUpper || c.isLower || c.isDigit) := rfl
  have hupper : c.isUpper = true ↔ 'A' ≤ c ∧ c ≤ 'Z' := decide_eq_true_iff
  have hrange {a b : Char} : (decide (a ≤ c) && decide (c ≤ b)) = true ↔ a ≤ c ∧ c ≤ b := by
    rw [Bool.and_eq_true, decide_eq_true_iff, decide_eq_true_iff]
  have hlower : c.isLower = true ↔ 'a' ≤ c ∧ c ≤ 'z' := hrange
  have hdigit : c.isDigit = true ↔ '0' ≤ c ∧ c ≤ '9' := hrange
  simp only [isPostChar, IsNameChar, halphanum, Bool.or_eq_true, beq_iff_eq, hupper, hlower,
    hdigit, or_assoc]

theorem isToken_iff {text : String} : isToken text.toList = true ↔ TokenForm text := by
  simp only [isToken, tokenLength, Bool.and_eq_true, beq_iff_eq, List.all_eq_true,
    isTokenChar_iff]
  exact ⟨fun h => ⟨h.1, h.2⟩, fun h => ⟨h.length, h.digits⟩⟩

theorem Token.form (t : Token) : TokenForm t.text := isToken_iff.mp t.isToken_toList

theorem isPostId_iff {post : String} : isPostId post = true ↔ PostForm post := by
  simp only [isPostId, Bool.and_eq_true, decide_eq_true_eq, List.all_eq_true, isPostChar_iff]
  exact ⟨fun h => ⟨h.1.1, h.1.2, h.2⟩, fun h => ⟨⟨h.nonempty, h.short⟩, h.chars⟩⟩

theorem ImageType.extension_mem (t : ImageType) : t.extension ∈ ["jpg", "png", "webp"] := by
  cases t <;> decide

theorem ImageType.isSome_ofExtension?_iff {extension : String} :
    (ofExtension? extension).isSome = true ↔ extension ∈ ["jpg", "png", "webp"] := by
  constructor
  · intro h
    obtain ⟨t, ht⟩ := Option.isSome_iff_exists.mp h
    exact extension_of_ofExtension? ht ▸ t.extension_mem
  · intro h
    simp only [List.mem_cons, List.not_mem_nil, or_false] at h
    rcases h with rfl | rfl | rfl <;> decide

theorem TokenForm.dot_not_mem {text : String} (h : TokenForm text) : '.' ∉ text.toList :=
  fun hmem => absurd (h.digits _ hmem) (by unfold IsHexDigit; decide)

theorem isRawKey_iff {key : String} : isRawKey key = true ↔ RawKeyForm key := by
  have hspan (file : List Char) := List.span_eq_takeWhile_dropWhile (· != '.') file
  constructor
  · intro h
    rw [isRawKey] at h
    split at h
    · cases h
    · next file hfile =>
      have hkey := List.append_eq_of_isPrefixOf?_eq_some hfile
      rw [hspan file] at h
      split at h
      · cases h
      · next token c extension hcut =>
        obtain ⟨rfl, hdrop⟩ := Prod.mk.inj hcut
        obtain rfl : c = '.' := by
          have hhead := List.head?_dropWhile_not (· != '.') file
          simpa [hdrop] using hhead
        rw [Bool.and_eq_true] at h
        refine ⟨.ofList (file.takeWhile (· != '.')), .ofList extension,
          isToken_iff.mp (by simpa using h.1), ImageType.isSome_ofExtension?_iff.mp h.2, ?_⟩
        rw [← String.toList_inj, ← hkey]
        have hfile := List.takeWhile_append_dropWhile (p := (· != '.')) (l := file)
        rw [hdrop] at hfile
        simp only [String.toList_append, String.toList_ofList, List.append_assoc]
        exact congrArg ("raw/".toList ++ ·) hfile.symm
  · rintro ⟨token, extension, htoken, hextension, rfl⟩
    have hkey : ("raw/" ++ token ++ "." ++ extension).toList =
        (rawPrefix ++ "/").toList ++ (token.toList ++ '.' :: extension.toList) := by
      simp [String.toList_append, rawPrefix]
    have hdots : ∀ c ∈ token.toList, (c != '.') = true := by
      intro c hc
      rw [bne_iff_ne]
      rintro rfl
      exact htoken.dot_not_mem hc
    rw [isRawKey, List.isPrefixOf?_eq_some_iff_append_eq.mpr hkey.symm]
    simp only [hspan, List.takeWhile_append_of_pos hdots, List.dropWhile_append_of_pos hdots]
    simp only [bne_self_eq_false, Bool.false_eq_true, not_false_eq_true, List.takeWhile_cons_of_neg,
      List.dropWhile_cons_of_neg, List.append_nil, String.ofList_toList,
      isToken_iff.mpr htoken, ImageType.isSome_ofExtension?_iff.mpr hextension, Bool.and_self]

theorem isRawKey_rawKey (type : ImageType) (token : Token) :
    isRawKey (rawKey type token) = true :=
  isRawKey_iff.mpr ⟨token.text, type.extension, token.form, type.extension_mem, rfl⟩

theorem PublishedKeys.form_of_has {post : String} {token : Token} {key : String}
    (hpost : isPostId post = true) (h : (of post token.text).Has key) :
    PublishedKeyForm post token.text key := by
  refine ⟨isPostId_iff.mp hpost, token.form, ?_⟩
  have hlist {s t : String} (h : s.toList = t.toList) : s = t := String.toList_inj.mp h
  rcases h with rfl | rfl
  · exact .inl (hlist (by simp [toList_full, stem, publicPrefix, collection]))
  · exact .inr (hlist (by simp [toList_thumbnail, stem, publicPrefix, collection]))

end ImageIntake
