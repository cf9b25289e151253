import ImageIntake.Rendering

namespace ImageIntake

inductive Pass where
  | rendition (r : Rendition)
  | failure (e : RenderError)
  | crash

abbrev Sanitizer := ByteArray → Profile → Pass

def twoPasses (sanitize : Sanitizer) (raw : ByteArray) : Option RenditionPair :=
  match sanitize raw .full with
  | .rendition full =>
      match sanitize raw .thumbnail with
      | .rendition thumbnail => some ⟨full, thumbnail⟩
      | .failure _ => none
      | .crash => none
  | .failure _ => none
  | .crash => none

theorem twoPasses_eq_some_iff {sanitize : Sanitizer} {raw : ByteArray} {pair : RenditionPair} :
    twoPasses sanitize raw = some pair ↔
      sanitize raw .full = .rendition pair.full ∧
        sanitize raw .thumbnail = .rendition pair.thumbnail := by
  rw [twoPasses]
  cases hf : sanitize raw .full with
  | rendition full =>
      cases ht : sanitize raw .thumbnail with
      | rendition thumbnail =>
          simp only [Option.some.injEq, Pass.rendition.injEq]
          constructor
          · rintro rfl; exact ⟨rfl, rfl⟩
          · rintro ⟨rfl, rfl⟩; rfl
      | failure | crash => simp
  | failure | crash => simp

theorem twoPasses_eq_none_iff {sanitize : Sanitizer} {raw : ByteArray} :
    twoPasses sanitize raw = none ↔
      ¬∃ full thumbnail, sanitize raw .full = .rendition full ∧
        sanitize raw .thumbnail = .rendition thumbnail := by
  rw [Option.eq_none_iff_forall_ne_some]
  constructor
  · rintro h ⟨full, thumbnail, hp⟩
    exact h ⟨full, thumbnail⟩ (twoPasses_eq_some_iff.mpr hp)
  · intro h pair hp
    exact h ⟨pair.full, pair.thumbnail, twoPasses_eq_some_iff.mp hp⟩

namespace Codec

variable {Pixel : ColourType → Type} (codec : Codec Pixel)

def sanitize : Sanitizer := fun raw profile =>
  match codec.renderFile raw profile with
  | .ok r => .rendition r
  | .error e => .failure e

theorem renderPair?_eq_twoPasses : codec.renderPair? = twoPasses codec.sanitize := by
  funext raw
  rw [renderPair?, twoPasses]
  simp only [sanitize, renderFile]
  cases codec.readPixels raw with
  | error => rfl
  | ok p =>
      simp only [Except.toOption, Option.bind_eq_bind, Option.bind_some]
      cases codec.render p .full with
      | error => rfl
      | ok full =>
          cases codec.render p .thumbnail with
          | error => rfl
          | ok thumbnail => rfl

end Codec

end ImageIntake
