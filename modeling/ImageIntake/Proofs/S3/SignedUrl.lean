import ImageIntake.Proofs.Text.Percent
import ImageIntake.S3.Signature

namespace ImageIntake.S3

open Text

inductive HasParameter (parameter : String) : String → Prop where
  | last (front : String) : HasParameter parameter (front ++ "&" ++ parameter)
  | inner (front back : String) : HasParameter parameter (front ++ "&" ++ parameter ++ "&" ++ back)

variable {parameter : String}

theorem HasParameter.within {query : String} (h : HasParameter parameter query) (front : String)
    {back rest : String} (hback : back = "&" ++ rest) :
    HasParameter parameter (front ++ query ++ back) := by
  subst hback
  cases h with
  | last front' =>
      have hinner : HasParameter parameter (front ++ front' ++ "&" ++ parameter ++ "&" ++ rest) :=
        .inner _ _
      simpa only [String.append_assoc] using hinner
  | inner front' back' =>
      have hinner : HasParameter parameter
          (front ++ front' ++ "&" ++ parameter ++ "&" ++ (back' ++ "&" ++ rest)) := .inner _ _
      simpa only [String.append_assoc] using hinner

theorem hasParameter_intercalate {before after : List String} (h : before ≠ []) :
    HasParameter parameter ("&".intercalate (before ++ parameter :: after)) := by
  rw [String.intercalate_append_of_ne_nil h (List.cons_ne_nil _ _)]
  cases after with
  | nil =>
      rw [String.intercalate_singleton]
      exact .last _
  | cons next after =>
      rw [String.intercalate_cons_cons, ← String.append_assoc, ← String.append_assoc]
      exact .inner _ _

theorem exists_split_mergeSort {entries : List (String × String)} {entry first : String × String}
    (hentry : entry ∈ entries) (hfirst : first ∈ entries) (hlt : ¬entry.1 ≤ first.1) :
    ∃ before after, entries.mergeSort (fun a b => a.1 ≤ b.1) = before ++ entry :: after ∧
      before ≠ [] := by
  have hmem : entry ∈ entries.mergeSort fun a b => a.1 ≤ b.1 := List.mem_mergeSort.mpr hentry
  obtain ⟨before, after, heq⟩ := List.append_of_mem hmem
  refine ⟨before, after, heq, ?_⟩
  rintro rfl
  -- the entry would come first, and so before the one with the smaller name
  have hsorted : (entries.mergeSort fun a b => a.1 ≤ b.1).Pairwise fun a b => decide (a.1 ≤ b.1) := by
    refine List.pairwise_mergeSort (fun a b c hab hbc => ?_) (fun a b => ?_) entries
    · exact decide_eq_true (String.le_trans (of_decide_eq_true hab) (of_decide_eq_true hbc))
    · simpa using String.le_total a.1 b.1
  have hfirst' : first ∈ entries.mergeSort fun a b => a.1 ≤ b.1 := List.mem_mergeSort.mpr hfirst
  rw [heq, List.nil_append] at hsorted hfirst'
  rcases List.mem_cons.mp hfirst' with rfl | hlater
  · exact hlt (String.le_refl _)
  · exact hlt (of_decide_eq_true ((List.pairwise_cons.mp hsorted).1 first hlater))

namespace Signer

theorem hasParameter_canonicalQuery {query : List (String × String)}
    {entry first : String × String} (hentry : entry ∈ query) (hfirst : first ∈ query)
    (hlt : ¬escapeUnreserved entry.1 ≤ escapeUnreserved first.1) :
    HasParameter (escapeUnreserved entry.1 ++ "=" ++ escapeUnreserved entry.2)
      (canonicalQuery query) := by
  let escaped (entry : String × String) := (escapeUnreserved entry.1, escapeUnreserved entry.2)
  have hentry' : escaped entry ∈ query.map escaped := List.mem_map_of_mem hentry
  have hfirst' : escaped first ∈ query.map escaped := List.mem_map_of_mem hfirst
  obtain ⟨before, after, hsplit, hne⟩ := exists_split_mergeSort hentry' hfirst' hlt
  have hquery : canonicalQuery query =
      "&".intercalate (((query.map escaped).mergeSort fun a b => a.1 ≤ b.1).map
        fun entry => entry.1 ++ "=" ++ entry.2) := rfl
  rw [hquery, hsplit, List.map_append, List.map_cons]
  exact hasParameter_intercalate (by simpa using hne)

theorem hasParameter_presignedUrl (s : Signer) (r : Request) (seconds : Nat) :
    HasParameter ("X-Amz-Expires=" ++ toString seconds) (s.presignedUrl r seconds) := by
  have hname : escapeUnreserved "X-Amz-Expires" = "X-Amz-Expires" := by decide +kernel
  have hfirst : escapeUnreserved "X-Amz-Algorithm" = "X-Amz-Algorithm" := by decide +kernel
  have hlt : ¬escapeUnreserved "X-Amz-Expires" ≤ escapeUnreserved "X-Amz-Algorithm" := by
    rw [hname, hfirst]
    decide
  have hquery {query : List (String × String)} (hentry : ("X-Amz-Expires", toString seconds) ∈ query)
      (hleast : ("X-Amz-Algorithm", algorithm) ∈ query) :
      HasParameter ("X-Amz-Expires=" ++ toString seconds) (canonicalQuery query) := by
    have h := hasParameter_canonicalQuery hentry hleast hlt
    rwa [hname, escapeUnreserved_toString] at h
  have hmark : "&X-Amz-Signature=" = "&" ++ "X-Amz-Signature=" := by decide
  rw [presignedUrl, String.append_assoc]
  refine (hquery ?_ ?_).within _ (by rw [hmark, String.append_assoc])
  · simp
  · simp

end Signer

end ImageIntake.S3
