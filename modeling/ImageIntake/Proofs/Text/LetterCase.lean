import ImageIntake.Text.LetterCase

namespace ImageIntake.Text

def IsSmallLetter (c : Char) : Prop := 'a' ≤ c ∧ c ≤ 'z'

instance (c : Char) : Decidable (IsSmallLetter c) := inferInstanceAs (Decidable (_ ∧ _))

theorem toNat_of_isSmallLetter {c : Char} (h : IsSmallLetter c) : 97 ≤ c.toNat ∧ c.toNat ≤ 122 := h

def CaseRun.Spares (run : CaseRun) : Prop := run.last < 97 ∨ 122 < run.first

instance (run : CaseRun) : Decidable run.Spares := inferInstanceAs (Decidable (_ ∨ _))

theorem CaseRun.Spares.covers_eq_false {run : CaseRun} (h : run.Spares) {n : Nat}
    (hn : 97 ≤ n ∧ n ≤ 122) : run.covers n = false := by
  unfold Spares at h
  simp only [covers, Bool.and_eq_false_iff, decide_eq_false_iff_not]
  omega

def CaseRun.LowersCapitals (run : CaseRun) : Prop := run.last < 65 ∨ 90 < run.first ∨ run.shift = 32

instance (run : CaseRun) : Decidable run.LowersCapitals :=
  inferInstanceAs (Decidable (_ ∨ _ ∨ _))

def CaseRun.LandsApart (run : CaseRun) : Prop :=
  run.last + run.shift < 97 ∨ 122 < run.first + run.shift ∨
    (65 ≤ run.first ∧ run.last ≤ 90 ∧ run.shift = 32) ∨
    (run.first = 0x212a ∧ run.last = 0x212a ∧ run.shift = 107 - 0x212a)

instance (run : CaseRun) : Decidable run.LandsApart :=
  inferInstanceAs (Decidable (_ ∨ _ ∨ (_ ∧ _ ∧ _) ∨ (_ ∧ _ ∧ _)))

theorem words_of_line {line : String} {cs : List Char} (hline : String.ofList cs = line) :
    words line = (cs.splitOn ' ').filter (· != []) := by
  subst hline
  rw [words, String.toList_ofList]

theorem forall_words_of_line {P : CaseRun → Prop} {line : String} {cs : List Char}
    (hline : String.ofList cs = line)
    (h : ∀ item ∈ (cs.splitOn ' ').filter (· != []), P (CaseRun.ofText item)) :
    ∀ item ∈ words line, P (CaseRun.ofText item) := by
  rwa [words_of_line hline]

theorem forall_runs_of_lines {P : CaseRun → Prop} {lines : List String}
    (h : ∀ line ∈ lines, ∀ item ∈ words line, P (CaseRun.ofText item)) :
    ∀ run ∈ ((lines.flatMap words).map CaseRun.ofText).toArray, P run := by
  simp only [List.mem_toArray, List.mem_map, List.mem_flatMap]
  rintro run ⟨item, ⟨line, hline, hitem⟩, rfl⟩
  exact h line hline item hitem

theorem regular_of_mem_caseRuns :
    ∀ run ∈ caseRuns, run.Spares ∧ run.LowersCapitals ∧ run.LandsApart := by
  refine forall_runs_of_lines ?_
  simp only [List.forall_mem_cons, List.not_mem_nil, false_implies, implies_true, and_true]
  repeat' apply And.intro
  all_goals
    refine forall_words_of_line (P := fun run => run.Spares ∧ run.LowersCapitals ∧ run.LandsApart)
      rfl ?_
    decide +kernel

theorem spares_of_mem_caseRuns {run : CaseRun} (h : run ∈ caseRuns) : run.Spares :=
  (regular_of_mem_caseRuns run h).1

theorem lowerChar_of_isSmallLetter {c : Char} (h : IsSmallLetter c) : lowerChar c = [c] := by
  have hrange := toNat_of_isSmallLetter h
  have hdot : c.toNat ≠ 0x130 := by omega
  have hnone : caseRuns.find? (·.covers c.toNat) = none := by
    rw [Array.find?_eq_none]
    intro run hrun
    rw [(spares_of_mem_caseRuns hrun).covers_eq_false hrange]
    decide
  rw [lowerChar, if_neg hdot, hnone]

end ImageIntake.Text
