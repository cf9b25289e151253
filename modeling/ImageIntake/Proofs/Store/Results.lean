import ImageIntake.Proofs.Store.Blind
import ImageIntake.Proofs.Store.Exchange

namespace ImageIntake

namespace Program

variable {α β : Type} {P : α → Prop}

inductive Results (P : α → Prop) : Program α → Prop where
  | done {result : α} : P result → Results P (.done result)
  | get {key limit next} : (∀ answer, Results P (next answer)) → Results P (.get key limit next)
  | putBoth {first second next} : (∀ answer, Results P (next answer)) →
      Results P (.putBoth first second next)
  | delete {key next} : (∀ answer, Results P (next answer)) → Results P (.delete key next)
  | presign {key contentType lifetime next} : (∀ answer, Results P (next answer)) →
      Results P (.presign key contentType lifetime next)

theorem results_of_forall (h : ∀ a, P a) (p : Program α) : p.Results P := by
  induction p with
  | done result => exact .done (h result)
  | get _ _ _ ih => exact .get ih
  | putBoth _ _ _ ih => exact .putBoth ih
  | delete _ _ ih => exact .delete ih
  | presign _ _ _ _ ih => exact .presign ih

theorem Results.bind {Q : β → Prop} {f : α → Program β} {p : Program α} (h : p.Results P)
    (hf : ∀ a, P a → (f a).Results Q) : (p.bind f).Results Q := by
  induction h with
  | done hresult => exact hf _ hresult
  | get _ ih => exact .get ih
  | putBoth _ ih => exact .putBoth ih
  | delete _ ih => exact .delete ih
  | presign _ ih => exact .presign ih

theorem Results.map {Q : β → Prop} {g : α → β} {p : Program α} (h : p.Results P)
    (hg : ∀ a, P a → Q (g a)) : (p.map g).Results Q :=
  h.bind fun a ha => .done (hg a ha)

theorem Results.of_converses {p : Program α} (h : p.Results P) {trace : List Event} {a : α}
    (hw : Position.Converses (.start p) trace (.done a)) : P a := by
  induction h generalizing trace with
  | done hresult =>
      obtain ⟨-, rfl⟩ := Position.converses_done hw
      exact hresult
  | get _ ih =>
      obtain ⟨answer, rest, -, hrest⟩ := Position.heard_get hw
      exact ih answer hrest
  | putBoth _ ih =>
      obtain ⟨answer, heard, rest, -, -, hrest⟩ := Position.heard_putBoth hw
      exact ih answer hrest
  | delete _ ih =>
      obtain ⟨answer, rest, -, hrest⟩ := Position.heard_delete hw
      exact ih answer hrest
  | presign _ ih =>
      obtain ⟨answer, rest, -, hrest⟩ := Position.heard_presign hw
      exact ih answer hrest

variable {σ : Type} [ObjectStore σ]

theorem Results.of_run {p : Program α} (h : p.Results P) (m : σ) : P (p.run m).1 := by
  induction h generalizing m with
  | done hresult => exact hresult
  | get _ ih | putBoth _ ih | delete _ ih | presign _ ih => exact ih _ _

theorem Results.of_runWithin {p : Program α} (h : p.Results P) {deadline : Span} {m m' : σ} {a : α}
    (hrun : p.runWithin deadline m = (some a, m')) : P a := by
  have hresult := h.of_run m
  rwa [Position.run_of_runWithin hrun] at hresult

end Program

end ImageIntake
