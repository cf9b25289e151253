import ImageIntake.Text.Blank
import Mathlib.Data.List.DropRight

namespace ImageIntake.Text

variable {p : Char → Bool}

theorem stripList_eq (p : Char → Bool) (cs : List Char) :
    stripList p cs = (cs.dropWhile p).rdropWhile p := rfl

theorem stripList_cons {c : Char} (h : p c = true) (cs : List Char) :
    stripList p (c :: cs) = stripList p cs := by
  rw [stripList_eq, stripList_eq, List.dropWhile_cons_of_pos h]

theorem rdropWhile_append {ds : List Char} (h : ∀ c ∈ ds, p c = true) (cs : List Char) :
    (cs ++ ds).rdropWhile p = cs.rdropWhile p := by
  rw [List.rdropWhile, List.reverse_append,
    List.dropWhile_append_of_pos fun c hc => h c (List.mem_reverse.mp hc), List.rdropWhile]

theorem stripList_append {ds : List Char} (h : ∀ c ∈ ds, p c = true) (cs : List Char) :
    stripList p (cs ++ ds) = stripList p cs := by
  induction cs with
  | nil =>
      have hnil : ds.dropWhile p = [] := List.dropWhile_eq_nil_iff.mpr h
      rw [List.nil_append, stripList_eq, hnil]
      rfl
  | cons c cs ih =>
      by_cases hc : p c = true
      · rw [List.cons_append, stripList_cons hc, stripList_cons hc, ih]
      · rw [stripList_eq, stripList_eq, List.cons_append, List.dropWhile_cons_of_neg hc,
          List.dropWhile_cons_of_neg hc, ← List.cons_append, rdropWhile_append h]

theorem stripList_prepend {ds : List Char} (h : ∀ c ∈ ds, p c = true) (cs : List Char) :
    stripList p (ds ++ cs) = stripList p cs := by
  rw [stripList_eq, stripList_eq, List.dropWhile_append_of_pos h]

theorem head?_of_front {front cs : List Char} {c : Char} (hfront : front <+: cs)
    (h : front.head? = some c) : cs.head? = some c := by
  obtain ⟨rest, rfl⟩ := hfront
  rw [List.head?_append, h, Option.some_or]

theorem head?_stripList {cs : List Char} {c : Char} (h : (stripList p cs).head? = some c) :
    p c = false := by
  have hhead : (cs.dropWhile p).head? = some c := head?_of_front (List.rdropWhile_prefix p _) h
  have hnot := List.head?_dropWhile_not p cs
  rwa [hhead] at hnot

theorem getLast?_rdropWhile {cs : List Char} {c : Char}
    (h : (cs.rdropWhile p).getLast? = some c) : p c = false := by
  obtain ⟨front, hfront⟩ := List.getLast?_eq_some_iff.mp h
  have hlast := List.rdropWhile_last_not p cs (by simp [hfront])
  simp only [hfront, List.getLast_concat] at hlast
  exact Bool.eq_false_iff.mpr hlast

theorem rdropWhile_of_getLast? {cs : List Char} (h : ∀ c, cs.getLast? = some c → p c = false) :
    cs.rdropWhile p = cs := by
  refine List.rdropWhile_eq_self_iff.mpr fun hne => ?_
  simp [h _ (List.getLast?_eq_some_getLast hne)]

theorem stripList_of_ends {cs : List Char} (hfirst : ∀ c, cs.head? = some c → p c = false)
    (hlast : ∀ c, cs.getLast? = some c → p c = false) : stripList p cs = cs := by
  have hdrop : cs.dropWhile p = cs := by
    cases cs with
    | nil => rfl
    | cons c cs => exact List.dropWhile_cons_of_neg (by simp [hfirst c rfl])
  rw [stripList_eq, hdrop, rdropWhile_of_getLast? hlast]

theorem stripList_of_not {cs : List Char} (h : ∀ c ∈ cs, p c = false) : stripList p cs = cs :=
  stripList_of_ends (fun c hc => h c (List.mem_of_head? hc))
    fun c hc => h c (List.mem_of_getLast? hc)

theorem stripList_sublist (p : Char → Bool) (cs : List Char) : (stripList p cs).Sublist cs :=
  (List.rdropWhile_prefix p _).sublist.trans (List.dropWhile_sublist p)

theorem trim_of_not_isBlank {s : String} (h : ∀ c ∈ s.toList, isBlank c = false) : trim s = s := by
  rw [trim, stripList_of_not h, String.ofList_toList]

theorem exists_stripList (p : Char → Bool) (cs : List Char) :
    ∃ front back, (∀ c ∈ front, p c = true) ∧ (∀ c ∈ back, p c = true) ∧
      cs = front ++ stripList p cs ++ back := by
  refine ⟨cs.takeWhile p, (cs.dropWhile p).rtakeWhile p, fun c => List.mem_takeWhile_imp,
    fun c => List.mem_rtakeWhile_imp, ?_⟩
  rw [stripList_eq, List.append_assoc, List.rdropWhile_append_rtakeWhile,
    List.takeWhile_append_dropWhile]

theorem stripList_stripList (p : Char → Bool) (cs : List Char) :
    stripList p (stripList p cs) = stripList p cs := by
  obtain ⟨front, back, hfront, hback, hcs⟩ := exists_stripList p cs
  conv_rhs => rw [hcs]
  rw [stripList_append hback, stripList_prepend hfront]

theorem trim_trim (s : String) : trim (trim s) = trim s := by
  rw [trim, toList_trim, stripList_stripList, trim]

theorem trimEndOf_eq_empty_iff {c : Char} {s : String} :
    trimEndOf c s = "" ↔ ∀ d ∈ s.toList, d = c := by
  rw [← String.toList_inj, toList_trimEndOf]
  simp

theorem toList_trimEndOf_eq (c : Char) (s : String) :
    (trimEndOf c s).toList = s.toList.rdropWhile (· == c) := toList_trimEndOf c s

theorem exists_trimEndOf (c : Char) (s : String) :
    ∃ n, s.toList = (trimEndOf c s).toList ++ List.replicate n c := by
  have hsame : ∀ d ∈ s.toList.rtakeWhile (· == c), d = c := fun d hd =>
    beq_iff_eq.mp (List.mem_rtakeWhile_imp (p := (· == c)) hd)
  refine ⟨(s.toList.rtakeWhile (· == c)).length, ?_⟩
  rw [toList_trimEndOf_eq, ← List.eq_replicate_iff.mpr ⟨rfl, hsame⟩,
    List.rdropWhile_append_rtakeWhile]

theorem toList_trimEndOf_of_append {c d : Char} {s : String} {front : List Char} {n : Nat}
    (h : s.toList = front ++ [d] ++ List.replicate n c) (hd : d ≠ c) :
    (trimEndOf c s).toList = front ++ [d] := by
  have hsame : ∀ e ∈ List.replicate n c, (e == c) = true := fun e he =>
    beq_iff_eq.mpr (List.eq_of_mem_replicate he)
  have hnot : ¬(d == c) = true := fun heq => hd (beq_iff_eq.mp heq)
  rw [toList_trimEndOf_eq, h, rdropWhile_append hsame,
    List.rdropWhile_concat_neg (· == c) front d hnot]

variable {sep : Char}

theorem exists_splitOn_append {ds : List Char} (h : sep ∉ ds) (cs : List Char) :
    ∃ before last, cs.splitOn sep = before ++ [last] ∧
      (cs ++ ds).splitOn sep = before ++ [last ++ ds] := by
  induction cs with
  | nil => exact ⟨[], [], List.splitOn_nil sep, List.splitOn_eq_singleton h⟩
  | cons c cs ih =>
      obtain ⟨before, last, hcs, hds⟩ := ih
      simp only [List.cons_append, List.splitOn_cons_eq_if_modifyHead, hcs, hds]
      split
      · exact ⟨[] :: before, last, rfl, rfl⟩
      · cases before with
        | nil => exact ⟨[], c :: last, rfl, rfl⟩
        | cons first before => exact ⟨(c :: first) :: before, last, rfl, rfl⟩

theorem map_stripList_splitOn_append (hsep : p sep = false) {ds : List Char}
    (h : ∀ c ∈ ds, p c = true) (cs : List Char) :
    ((cs ++ ds).splitOn sep).map (stripList p) = (cs.splitOn sep).map (stripList p) := by
  have hnot : sep ∉ ds := fun hmem => by rw [h sep hmem] at hsep; cases hsep
  obtain ⟨before, last, hcs, hds⟩ := exists_splitOn_append hnot cs
  simp only [hcs, hds, List.map_append, List.map_cons, stripList_append h]

theorem map_stripList_splitOn_prepend (hsep : p sep = false) {ds : List Char}
    (h : ∀ c ∈ ds, p c = true) (cs : List Char) :
    ((ds ++ cs).splitOn sep).map (stripList p) = (cs.splitOn sep).map (stripList p) := by
  induction ds with
  | nil => rfl
  | cons d ds ih =>
      obtain ⟨hd, hds⟩ := List.forall_mem_cons.mp h
      have hne : ¬(d == sep) = true := by
        rintro heq
        rw [beq_iff_eq.mp heq, hsep] at hd
        cases hd
      rw [List.cons_append, List.splitOn_cons_eq_if_modifyHead, if_neg hne, ← ih hds]
      cases (ds ++ cs).splitOn sep with
      | nil => rfl
      | cons first rest =>
          rw [List.modifyHead_cons, List.map_cons, List.map_cons, stripList_cons hd]

theorem map_stripList_splitOn (hsep : p sep = false) (cs : List Char) :
    ((stripList p cs).splitOn sep).map (stripList p) = (cs.splitOn sep).map (stripList p) := by
  obtain ⟨front, back, hfront, hback, hcs⟩ := exists_stripList p cs
  conv_rhs => rw [hcs]
  rw [map_stripList_splitOn_append hsep hback, map_stripList_splitOn_prepend hsep hfront]

end ImageIntake.Text
