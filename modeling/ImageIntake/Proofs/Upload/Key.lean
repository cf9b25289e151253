import ImageIntake.Upload.Key
import Mathlib.Data.List.Basic

namespace ImageIntake

namespace Token

theorem length_toList (t : Token) : t.text.toList.length = 32 := by
  have h := t.isToken_toList
  rw [isToken, Bool.and_eq_true] at h
  exact beq_iff_eq.mp h.1

theorem isTokenChar_of_mem (t : Token) {c : Char} (h : c ∈ t.text.toList) :
    isTokenChar c = true := by
  have ht := t.isToken_toList
  rw [isToken, Bool.and_eq_true] at ht
  exact List.all_eq_true.mp ht.2 c h

theorem ext {s t : Token} (h : s.text = t.text) : s = t := by
  cases s; cases t; cases h; rfl

end Token

namespace PublishedKeys

def stem (post : String) : List Char :=
  (publicPrefix ++ "/" ++ collection ++ "/").toList ++ post.toList ++ ['/']

theorem stem_injective {p q : String} (h : stem p = stem q) : p = q := by
  rw [stem, stem] at h
  have hp := List.append_cancel_left (List.append_cancel_right h)
  exact String.toList_injective hp

theorem toList_full (post image : String) :
    (of post image).full.toList = stem post ++ image.toList ++ ".webp".toList := by
  simp [of, stem, outputExtension, String.toList_append]

theorem toList_thumbnail (post image : String) :
    (of post image).thumbnail.toList =
      stem post ++ image.toList ++ "_thumb".toList ++ ".webp".toList := by
  simp [of, stem, outputExtension, String.toList_append]

theorem full_injective {p q : String} {s t : Token}
    (h : (of p s.text).full = (of q t.text).full) : p = q ∧ s = t := by
  have hl := congrArg String.toList h
  rw [toList_full, toList_full] at hl
  have hlen : s.text.toList.length = t.text.toList.length := by
    rw [s.length_toList, t.length_toList]
  obtain ⟨hp, ht⟩ := List.append_inj' (List.append_cancel_right hl) hlen
  exact ⟨stem_injective hp, Token.ext (String.toList_injective ht)⟩

theorem thumbnail_injective {p q : String} {s t : Token}
    (h : (of p s.text).thumbnail = (of q t.text).thumbnail) : p = q ∧ s = t := by
  have hl := congrArg String.toList h
  rw [toList_thumbnail, toList_thumbnail] at hl
  have hlen : s.text.toList.length = t.text.toList.length := by
    rw [s.length_toList, t.length_toList]
  have hs := List.append_cancel_right (List.append_cancel_right hl)
  obtain ⟨hp, ht⟩ := List.append_inj' hs hlen
  exact ⟨stem_injective hp, Token.ext (String.toList_injective ht)⟩

theorem full_ne_thumbnail (p q : String) (s t : Token) :
    (of p s.text).full ≠ (of q t.text).thumbnail := by
  intro h
  have hl := congrArg String.toList h
  rw [toList_full, toList_thumbnail] at hl
  have hs := List.append_cancel_right hl
  rw [← List.take_append_drop 26 s.text.toList, ← List.append_assoc] at hs
  have hlen : (s.text.toList.drop 26).length = "_thumb".toList.length := by
    rw [List.length_drop, s.length_toList]; rfl
  obtain ⟨-, ht⟩ := List.append_inj' hs hlen
  have hmem : '_' ∈ s.text.toList := List.mem_of_mem_drop (i := 26) (by rw [ht]; decide)
  exact absurd (s.isTokenChar_of_mem hmem) (by decide)

def Has (keys : PublishedKeys) (key : String) : Prop :=
  key = keys.full ∨ key = keys.thumbnail

theorem has_full (keys : PublishedKeys) : keys.Has keys.full := .inl rfl

theorem has_thumbnail (keys : PublishedKeys) : keys.Has keys.thumbnail := .inr rfl

theorem has_injective {p q : String} {s t : Token} {key : String}
    (hp : (of p s.text).Has key) (hq : (of q t.text).Has key) : p = q ∧ s = t := by
  rcases hp with rfl | rfl <;> rcases hq with h | h
  · exact full_injective h
  · exact absurd h (full_ne_thumbnail p q s t)
  · exact absurd h.symm (full_ne_thumbnail q p t s)
  · exact thumbnail_injective h

theorem head_of_has {post image key : String} (h : (of post image).Has key) :
    key.toList.head? = some 'p' := by
  rcases h with rfl | rfl
  · rw [toList_full]; rfl
  · rw [toList_thumbnail]; rfl

end PublishedKeys

theorem head_of_isRawKey {key : String} (h : isRawKey key = true) :
    key.toList.head? = some 'r' := by
  rw [isRawKey] at h
  split at h
  · exact absurd h (by decide)
  · rename_i file hfile
    have happ := List.append_eq_of_isPrefixOf?_eq_some hfile
    rw [← happ]; rfl

theorem ne_of_isRawKey {key other : String} (h : isRawKey key = true)
    (h' : isRawKey other = false) : key ≠ other := by
  rintro rfl
  rw [h] at h'
  cases h'

theorem PublishedKeys.ne_rawKey {post image key raw : String} (h : (of post image).Has key)
    (hraw : isRawKey raw = true) : key ≠ raw := by
  rintro rfl
  have hp := head_of_has h
  rw [head_of_isRawKey hraw] at hp
  exact absurd hp (by decide)

end ImageIntake
