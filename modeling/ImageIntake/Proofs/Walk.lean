namespace ImageIntake

universe u v

inductive Walk {σ : Type u} {ε : Type v} (step : σ → ε → σ → Prop) : σ → List ε → σ → Prop where
  | refl (s : σ) : Walk step s [] s
  | snoc {s t u : σ} {es : List ε} {e : ε} :
      Walk step s es t → step t e u → Walk step s (es ++ [e]) u

namespace Walk

variable {σ : Type u} {ε : Type v} {step : σ → ε → σ → Prop}

theorem single {s t : σ} {e : ε} (h : step s e t) : Walk step s [e] t :=
  (Walk.refl s).snoc h

theorem append {s t u : σ} {es fs : List ε} (h : Walk step s es t) (h' : Walk step t fs u) :
    Walk step s (es ++ fs) u := by
  induction h' with
  | refl => simpa using h
  | snoc _ hstep ih =>
      rw [← List.append_assoc]
      exact ih.snoc hstep

theorem cons {s t u : σ} {e : ε} {es : List ε} (h : step s e t) (h' : Walk step t es u) :
    Walk step s (e :: es) u :=
  (single h).append h'

theorem eq_or_first {s u : σ} {es : List ε} (h : Walk step s es u) :
    (es = [] ∧ u = s) ∨ ∃ e t rest, es = e :: rest ∧ step s e t ∧ Walk step t rest u := by
  induction h with
  | refl => exact .inl ⟨rfl, rfl⟩
  | @snoc t u es e _ hstep ih =>
      rcases ih with ⟨rfl, rfl⟩ | ⟨e', t', rest, rfl, hfirst, hrest⟩
      · exact .inr ⟨e, u, [], rfl, hstep, .refl _⟩
      · exact .inr ⟨e', t', rest ++ [e], rfl, hfirst, hrest.snoc hstep⟩

theorem keeps {I : σ → Prop} (hstep : ∀ s e t, I s → step s e t → I t) {s t : σ} {es : List ε}
    (h : Walk step s es t) (hs : I s) : I t := by
  induction h with
  | refl => exact hs
  | snoc _ ht ih => exact hstep _ _ _ ih ht

theorem keeps_among {I : σ → Prop} {P : ε → Prop}
    (hstep : ∀ s e t, P e → I s → step s e t → I t) {s t : σ} {es : List ε}
    (h : Walk step s es t) (hes : ∀ e ∈ es, P e) (hs : I s) : I t := by
  induction h with
  | refl => exact hs
  | snoc _ ht ih =>
      refine hstep _ _ _ (hes _ (by simp)) (ih fun e he => ?_) ht
      exact hes e (List.mem_append_left _ he)

end Walk

end ImageIntake
