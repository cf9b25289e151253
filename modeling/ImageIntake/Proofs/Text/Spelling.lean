import ImageIntake.Proofs.Text.LetterCase
import ImageIntake.Proofs.Text.Trim

namespace ImageIntake.Text

def Spells (text word : String) : Prop :=
  ∃ front letters back, text.toList = front ++ letters ++ back ∧
    (∀ c ∈ front, isBlank c = true) ∧ (∀ c ∈ back, isBlank c = true) ∧
    letters.map lowerAscii = word.toList

def IsCapital (c : Char) : Prop := 'A' ≤ c ∧ c ≤ 'Z'

instance (c : Char) : Decidable (IsCapital c) := inferInstanceAs (Decidable (_ ∧ _))

theorem toNat_of_isCapital {c : Char} (h : IsCapital c) : 65 ≤ c.toNat ∧ c.toNat ≤ 90 := h

theorem lowerAscii_of_isCapital {c : Char} (h : IsCapital c) :
    lowerAscii c = Char.ofNat (c.toNat + 32) := if_pos h

theorem lowerAscii_of_not_isCapital {c : Char} (h : ¬IsCapital c) : lowerAscii c = c := if_neg h

theorem lowerAscii_of_isSmallLetter {c : Char} (h : IsSmallLetter c) : lowerAscii c = c := by
  refine lowerAscii_of_not_isCapital fun hc => ?_
  have hsmall := toNat_of_isSmallLetter h
  have hcapital := toNat_of_isCapital hc
  omega

theorem isCapital_or_isSmallLetter {c : Char} (h : IsSmallLetter (lowerAscii c)) :
    IsCapital c ∨ IsSmallLetter c := by
  by_cases hc : IsCapital c
  · exact .inl hc
  · rw [lowerAscii_of_not_isCapital hc] at h
    exact .inr h

theorem isBlank_of_isSmallLetter_lowerAscii {c : Char} (h : IsSmallLetter (lowerAscii c)) :
    isBlank c = false := by
  have hc : 65 ≤ c.toNat ∧ c.toNat ≤ 122 := by
    rcases isCapital_or_isSmallLetter h with hc | hc
    · have := toNat_of_isCapital hc
      omega
    · have := toNat_of_isSmallLetter hc
      omega
  simp only [isBlank, Bool.or_eq_false_iff, Bool.and_eq_false_iff, decide_eq_false_iff_not,
    beq_eq_false_iff_ne]
  omega

theorem exists_run_of_isCapital {c : Char} (h : IsCapital c) :
    ∃ run ∈ caseRuns, run.covers c.toNat = true := by
  have hrun : CaseRun.ofText ['4', '1', '-', '5', 'a', '+', '2', '0'] = ⟨65, 90, 1, 32⟩ := rfl
  refine ⟨⟨65, 90, 1, 32⟩, ?_, ?_⟩
  · -- the ASCII capitals are the first run of the table
    rw [← hrun, caseRuns, List.mem_toArray]
    refine List.mem_map_of_mem (List.mem_flatMap.mpr ⟨_, List.mem_cons_self, ?_⟩)
    rw [words_of_line rfl]
    decide +kernel
  · have hrange := toNat_of_isCapital h
    simp only [CaseRun.covers, Nat.mod_one, beq_self_eq_true, Bool.and_true, Bool.and_eq_true,
      decide_eq_true_eq]
    exact hrange

theorem lowerChar_cases (c : Char) :
    c.toNat = 0x130 ∧ lowerChar c = ['i', '\u0307'] ∨
      (∃ run ∈ caseRuns, run.covers c.toNat = true ∧
        lowerChar c = [Char.ofNat (c.toNat + run.shift).toNat]) ∨
      (∀ run ∈ caseRuns, run.covers c.toNat ≠ true) ∧ lowerChar c = [c] := by
  by_cases hdot : c.toNat = 0x130
  · exact .inl ⟨hdot, if_pos hdot⟩
  · rw [lowerChar, if_neg hdot]
    cases hfind : caseRuns.find? (·.covers c.toNat) with
    | none =>
        rw [Array.find?_eq_none] at hfind
        exact .inr (.inr ⟨hfind, rfl⟩)
    | some run =>
        have hcovers := Array.find?_some hfind
        have hrun : run ∈ caseRuns := Array.mem_of_find?_eq_some hfind
        exact .inr (.inl ⟨run, hrun, hcovers, rfl⟩)

theorem lowerChar_of_isCapital {c : Char} (h : IsCapital c) : lowerChar c = [lowerAscii c] := by
  have hrange := toNat_of_isCapital h
  rcases lowerChar_cases c with ⟨hdot, -⟩ | ⟨run, hrun, hcovers, hlower⟩ | ⟨hnone, -⟩
  · omega
  · have hshift : run.shift = 32 := by
      have hlowers := (regular_of_mem_caseRuns run hrun).2.1
      simp only [CaseRun.covers, Bool.and_eq_true, decide_eq_true_eq] at hcovers
      unfold CaseRun.LowersCapitals at hlowers
      omega
    have hnat : ((c.toNat : Int) + 32).toNat = c.toNat + 32 := by omega
    rw [hlower, hshift, hnat, lowerAscii_of_isCapital h]
  · obtain ⟨run, hrun, hcovers⟩ := exists_run_of_isCapital h
    exact absurd hcovers (hnone run hrun)

theorem lowerChar_of_lowerAscii {c : Char} (h : IsSmallLetter (lowerAscii c)) :
    lowerChar c = [lowerAscii c] := by
  rcases isCapital_or_isSmallLetter h with hc | hc
  · exact lowerChar_of_isCapital hc
  · rw [lowerChar_of_isSmallLetter hc, lowerAscii_of_isSmallLetter hc]

theorem toNat_of_isSmallLetter_ofNat {n : Nat} (h : IsSmallLetter (Char.ofNat n)) :
    (Char.ofNat n).toNat = n := by
  have hrange := toNat_of_isSmallLetter h
  by_cases hvalid : n.isValidChar
  · rw [Char.ofNat, dif_pos hvalid]
    rfl
  · rw [Char.ofNat, dif_neg hvalid] at hrange
    exact absurd hrange (by decide)

theorem lowerChar_eq_singleton {c d : Char} (h : lowerChar c = [d]) (hd : IsSmallLetter d)
    (hk : d ≠ 'k') : lowerAscii c = d := by
  rcases lowerChar_cases c with ⟨-, hlower⟩ | ⟨run, hrun, hcovers, hlower⟩ | ⟨-, hlower⟩
  · rw [hlower] at h
    cases h
  · rw [hlower, List.cons.injEq] at h
    obtain ⟨rfl, -⟩ := h
    have hvalue := toNat_of_isSmallLetter_ofNat hd
    have hrange := toNat_of_isSmallLetter hd
    have hlands := (regular_of_mem_caseRuns run hrun).2.2
    simp only [CaseRun.covers, Bool.and_eq_true, decide_eq_true_eq] at hcovers
    unfold CaseRun.LandsApart at hlands
    rcases hlands with hbelow | habove | ⟨hfirst, hlast, hshift⟩ | ⟨hfirst, hlast, hshift⟩
    · omega
    · omega
    · have hcapital : IsCapital c := ⟨hfirst.trans hcovers.1.1, hcovers.1.2.trans hlast⟩
      have hnat : ((c.toNat : Int) + 32).toNat = c.toNat + 32 := by omega
      rw [lowerAscii_of_isCapital hcapital, hshift, hnat]
    · have hkelvin : c.toNat = 0x212a := by omega
      rw [hkelvin, hshift] at hk
      exact absurd rfl hk
  · rw [hlower, List.cons.injEq] at h
    obtain ⟨rfl, -⟩ := h
    exact lowerAscii_of_isSmallLetter hd

def IsPlainWord (word : String) : Prop := ∀ d ∈ word.toList, IsSmallLetter d ∧ d ≠ 'k'

theorem isPlainWord_of_all {word : String}
    (h : word.toList.all (fun d => decide (IsSmallLetter d ∧ d ≠ 'k')) = true) :
    IsPlainWord word := by
  intro d hd
  exact of_decide_eq_true (List.all_eq_true.mp h d hd)

theorem spells_self {word : String} (h : IsPlainWord word) : Spells word word := by
  refine ⟨[], word.toList, [], by simp, nofun, nofun, ?_⟩
  calc word.toList.map lowerAscii = word.toList.map id :=
        List.map_congr_left fun d hd => lowerAscii_of_isSmallLetter (h d hd).1
    _ = word.toList := List.map_id _

theorem lowerAfter_of_map {cs word : List Char} (hword : ∀ d ∈ word, IsSmallLetter d)
    (h : cs.map lowerAscii = word) (before : List Char) : lowerAfter before cs = word := by
  subst h
  induction cs generalizing before with
  | nil => rfl
  | cons c cs ih =>
      obtain ⟨hc, hcs⟩ := List.forall_mem_cons.mp hword
      have hsigma : c.toNat ≠ 0x3a3 := by
        rcases isCapital_or_isSmallLetter hc with hc | hc
        · have := toNat_of_isCapital hc
          omega
        · have := toNat_of_isSmallLetter hc
          omega
      rw [lowerAfter, if_neg hsigma, lowerChar_of_lowerAscii hc, ih _ hcs]
      rfl

theorem exists_lowerAfter_cons (before : List Char) (c : Char) (cs : List Char) :
    ∃ small, lowerAfter before (c :: cs) = small ++ lowerAfter (c :: before) cs ∧
      (small = ['\u03c2'] ∨ small = ['\u03c3'] ∨ small = lowerChar c) := by
  rw [lowerAfter]
  refine ⟨_, rfl, ?_⟩
  split
  · split
    · exact .inl rfl
    · exact .inr (.inl rfl)
  · exact .inr (.inr rfl)

theorem exists_lowerChar (c : Char) :
    ∃ d ds, lowerChar c = d :: ds ∧ (ds = [] ∨ '\u0307' ∈ ds) := by
  rcases lowerChar_cases c with ⟨-, hlower⟩ | ⟨run, -, -, hlower⟩ | ⟨-, hlower⟩
  · exact ⟨_, _, hlower, .inr List.mem_cons_self⟩
  · exact ⟨_, _, hlower, .inl rfl⟩
  · exact ⟨_, _, hlower, .inl rfl⟩

theorem map_of_lowerAfter {cs word before : List Char}
    (hword : ∀ d ∈ word, IsSmallLetter d ∧ d ≠ 'k') (h : lowerAfter before cs = word) :
    cs.map lowerAscii = word := by
  induction cs generalizing before word with
  | nil => exact h
  | cons c cs ih =>
      obtain ⟨small, hcons, hsmall⟩ := exists_lowerAfter_cons before c cs
      rw [hcons] at h
      subst h
      have hletters : ∀ d ∈ small, IsSmallLetter d ∧ d ≠ 'k' := fun d hd =>
        hword d (List.mem_append_left _ hd)
      have hrest := ih (fun d hd => hword d (List.mem_append_right _ hd)) rfl
      -- a sigma and a capital I with a dot leave characters that are in no plain word
      rcases hsmall with rfl | rfl | rfl
      · exact absurd (hletters _ List.mem_cons_self).1 (by decide)
      · exact absurd (hletters _ List.mem_cons_self).1 (by decide)
      · obtain ⟨d, ds, hlower, hds⟩ := exists_lowerChar c
        rw [hlower] at hletters ⊢
        rcases hds with rfl | hdot
        · obtain ⟨hd, hk⟩ := hletters d List.mem_cons_self
          rw [List.map_cons, hrest, lowerChar_eq_singleton hlower hd hk]
          rfl
        · exact absurd (hletters _ (List.mem_cons_of_mem _ hdot)).1 (by decide)

theorem stripList_of_spelled {front letters back : List Char}
    (hfront : ∀ c ∈ front, isBlank c = true) (hback : ∀ c ∈ back, isBlank c = true)
    (h : ∀ c ∈ letters, isBlank c = false) :
    stripList isBlank (front ++ letters ++ back) = letters := by
  rw [stripList_append hback, stripList_prepend hfront, stripList_of_not h]

theorem toLower_trim_eq_iff {text word : String} (hword : IsPlainWord word) :
    toLower (trim text) = word ↔ Spells text word := by
  rw [toLower, toList_trim]
  constructor
  · intro h
    obtain ⟨front, back, hfront, hback, htext⟩ := exists_stripList isBlank text.toList
    have hlower : lowerAfter [] (stripList isBlank text.toList) = word.toList := by
      rw [← h, String.toList_ofList]
    exact ⟨front, _, back, htext, hfront, hback, map_of_lowerAfter hword hlower⟩
  · rintro ⟨front, letters, back, htext, hfront, hback, hletters⟩
    have hnot : ∀ c ∈ letters, isBlank c = false := fun c hc =>
      isBlank_of_isSmallLetter_lowerAscii
        (hword _ (hletters ▸ List.mem_map_of_mem hc)).1
    rw [htext, stripList_of_spelled hfront hback hnot,
      lowerAfter_of_map (fun d hd => (hword d hd).1) hletters, String.ofList_toList]

end ImageIntake.Text
