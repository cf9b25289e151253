import ImageIntake.Proofs.Settings.Origins
import ImageIntake.Proofs.Settings.PublicBase

namespace ImageIntake

namespace Text

variable {sep : Char}

theorem not_mem_of_mem_splitOn {cs segment : List Char} (h : segment ∈ cs.splitOn sep) :
    sep ∉ segment := by
  induction cs generalizing segment with
  | nil =>
      rw [List.splitOn_nil, List.mem_singleton] at h
      simp [h]
  | cons c cs ih =>
      rw [List.splitOn_cons_eq_if_modifyHead] at h
      split at h
      · rcases List.mem_cons.mp h with rfl | h
        · exact List.not_mem_nil
        · exact ih h
      · next hne =>
        cases hcs : cs.splitOn sep with
        | nil => exact absurd hcs (List.splitOn_ne_nil sep cs)
        | cons first rest =>
            rw [hcs, List.modifyHead_cons] at h
            rw [hcs] at ih
            rcases List.mem_cons.mp h with rfl | h
            · rw [List.mem_cons, not_or]
              exact ⟨fun heq => hne (beq_iff_eq.mpr heq.symm), ih List.mem_cons_self⟩
            · exact ih (List.mem_cons_of_mem _ h)

theorem trim_eq_empty_iff {s : String} : trim s = "" ↔ ∀ c ∈ s.toList, isBlank c = true := by
  rw [← String.toList_inj, toList_trim]
  constructor
  · intro h c hc
    obtain ⟨front, back, hfront, hback, hs⟩ := exists_stripList isBlank s.toList
    rw [hs, h] at hc
    simp only [String.toList_empty, List.append_nil, List.mem_append] at hc
    exact hc.elim (hfront c) (hback c)
  · intro h
    rw [← List.nil_append s.toList, stripList_append h]
    rfl

theorem trim_ofList_padded {front back : List Char} (hfront : ∀ c ∈ front, isBlank c = true)
    (hback : ∀ c ∈ back, isBlank c = true) (cs : List Char) :
    trim (String.ofList (front ++ cs ++ back)) = trim (String.ofList cs) := by
  rw [trim, trim, String.toList_ofList, String.toList_ofList, stripList_append hback,
    stripList_prepend hfront]

end Text

open Text

namespace Settings

def parseOrigins (list : String) : Except SettingsError (List String) :=
  (segments list).mapM checkOrigin

structure Listable (origin : String) : Prop where
  trimmed : trim origin = origin
  filled : origin ≠ ""
  noComma : ',' ∉ origin.toList
  legal : Http.isHeaderText origin = true

def joined (parts : List (List Char)) : String := String.ofList ([','].intercalate parts)

inductive Loosens : List (List Char) → List (List Char) → Prop where
  | nil : Loosens [] []
  | padded {part parts parts'} (front back : List Char) : (∀ c ∈ front, isBlank c = true) →
      (∀ c ∈ back, isBlank c = true) → Loosens parts parts' →
      Loosens (part :: parts) ((front ++ part ++ back) :: parts')
  | blank {parts parts'} (part : List Char) : (∀ c ∈ part, isBlank c = true) →
      Loosens parts parts' → Loosens parts (part :: parts')

theorem comma_not_mem {cs : List Char} (h : ∀ c ∈ cs, isBlank c = true) : ',' ∉ cs := fun hmem =>
  absurd (h _ hmem) (by decide)

def named (parts : List (List Char)) : List String :=
  (parts.map fun part => trim (String.ofList part)).filter (· != "")

theorem named_cons (part : List Char) (parts : List (List Char)) :
    named (part :: parts) = named [part] ++ named parts := by
  rw [named, ← List.singleton_append, List.map_append, List.filter_append]
  rfl

theorem named_blank {part : List Char} (h : ∀ c ∈ part, isBlank c = true) : named [part] = [] := by
  have htrim : trim (String.ofList part) = "" := trim_eq_empty_iff.mpr (by simpa using h)
  simp [named, htrim]

theorem segments_joined {parts : List (List Char)} (hcommas : ∀ part ∈ parts, ',' ∉ part)
    (hne : parts ≠ []) : segments (joined parts) = named parts := by
  rw [segments, joined, String.toList_ofList, List.splitOn_intercalate ',' hcommas hne, named]

namespace Loosens

variable {parts parts' : List (List Char)}

theorem named_eq (h : Loosens parts parts') : named parts' = named parts := by
  induction h with
  | nil => rfl
  | @padded part parts parts' front back hfront hback _ ih =>
      have hpart : named [front ++ part ++ back] = named [part] := by
        simp only [named, List.map_cons, List.map_nil, trim_ofList_padded hfront hback]
      rw [named_cons, hpart, ih, ← named_cons]
  | blank part hpart _ ih => rw [named_cons, named_blank hpart, List.nil_append, ih]

theorem noComma (h : Loosens parts parts') (hparts : ∀ part ∈ parts, ',' ∉ part) :
    ∀ part ∈ parts', ',' ∉ part := by
  induction h with
  | nil => exact hparts
  | padded front back hfront hback _ ih =>
      obtain ⟨hpart, hrest⟩ := List.forall_mem_cons.mp hparts
      refine List.forall_mem_cons.mpr ⟨?_, ih hrest⟩
      simp [comma_not_mem hfront, comma_not_mem hback, hpart]
  | blank part hpart _ ih => exact List.forall_mem_cons.mpr ⟨comma_not_mem hpart, ih hparts⟩

theorem eq_nil (h : Loosens parts []) : parts = [] := by
  cases h
  rfl

theorem eq_singleton {part' : List Char} (h : Loosens parts [part']) (hne : parts ≠ []) :
    ∃ part, parts = [part] ∧ part ⊆ part' := by
  cases h with
  | padded front back _ _ hrest =>
      rw [hrest.eq_nil]
      exact ⟨_, rfl, fun c hc => by simp [hc]⟩
  | blank _ _ hrest => exact absurd hrest.eq_nil hne

end Loosens

variable {readUrl : UrlReader} {lookup : Lookup} {settings : Settings}

theorem readOrigins_eq (lookup : Lookup) :
    readOrigins lookup = parseOrigins ((lookup.value? .origins).getD defaultOrigins) := rfl

theorem parseOrigins_congr {list list' : String} (h : segments list = segments list') :
    parseOrigins list = parseOrigins list' := by
  rw [parseOrigins, parseOrigins, h]

theorem readOrigins_set {text : String} (h : trim text ≠ "") :
    readOrigins (lookup.set .origins text) = parseOrigins text := by
  have hvalue : (lookup.set .origins text).value? .origins = some (trim text) :=
    Lookup.value?_eq_some_iff.mpr ⟨text, if_pos rfl, h, rfl⟩
  rw [readOrigins_eq, hvalue]
  exact parseOrigins_congr (segments_trim text)

theorem load_set_origins {text : String} {origins : List String} (h : load readUrl lookup = .ok settings)
    (htext : trim text ≠ "") (horigins : parseOrigins text = .ok origins) :
    load readUrl (lookup.set .origins text) = .ok { settings with origins := origins } :=
  load_of_loadedFrom { loadedFrom_of_load h with
    origins := (readOrigins_set htext).trans horigins }

theorem mapM_checkOrigin_of_legal {list : List String}
    (h : ∀ origin ∈ list, Http.isHeaderText origin = true) : list.mapM checkOrigin = .ok list := by
  induction list with
  | nil => rfl
  | cons origin list ih =>
      obtain ⟨hlegal, hlist⟩ := List.forall_mem_cons.mp h
      have hchecked : checkOrigin origin = .ok origin := if_pos hlegal
      rw [List.mapM_cons, hchecked, ih hlist]
      rfl

theorem intercalate_eq_joined (list : List String) :
    ",".intercalate list = joined (list.map String.toList) := by
  have hcomma : ",".toList = [','] := by decide
  rw [joined, ← String.toList_inj, String.toList_intercalate, hcomma, String.toList_ofList]

theorem named_listable {list : List String} (h : ∀ origin ∈ list, Listable origin) :
    named (list.map String.toList) = list := by
  have htrimmed : (list.map String.toList).map (fun part => trim (String.ofList part)) = list := by
    rw [List.map_map]
    refine (List.map_congr_left fun origin horigin => ?_).trans (List.map_id list)
    rw [Function.comp_apply, String.ofList_toList, (h origin horigin).trimmed, id]
  rw [named, htrimmed, List.filter_eq_self]
  exact fun origin horigin => bne_iff_ne.mpr (h origin horigin).filled

theorem segments_intercalate {list : List String} (h : ∀ origin ∈ list, Listable origin) :
    segments (",".intercalate list) = list := by
  by_cases hne : list = []
  · subst hne
    exact segments_of_blank (by decide +kernel)
  · have hcommas : ∀ part ∈ list.map String.toList, ',' ∉ part := by
      intro part hpart
      obtain ⟨origin, horigin, rfl⟩ := List.mem_map.mp hpart
      exact (h origin horigin).noComma
    rw [intercalate_eq_joined, segments_joined hcommas (by simpa using hne), named_listable h]

theorem parseOrigins_intercalate {list : List String} (h : ∀ origin ∈ list, Listable origin) :
    parseOrigins (",".intercalate list) = .ok list := by
  rw [parseOrigins, segments_intercalate h]
  exact mapM_checkOrigin_of_legal fun origin horigin => (h origin horigin).legal

theorem load_intercalate {list : List String} (hload : load readUrl lookup = .ok settings)
    (h : ∀ origin ∈ list, Listable origin) (hne : list ≠ []) :
    load readUrl (lookup.set .origins (",".intercalate list)) =
      .ok { settings with origins := list } := by
  refine load_set_origins hload (fun hblank => hne ?_) (parseOrigins_intercalate h)
  rw [← segments_intercalate h, segments_of_blank hblank]

theorem trim_joined_ne_empty {text : String} {parts : List (List Char)}
    (h : Loosens (text.toList.splitOn ',') parts) (htext : trim text ≠ "") :
    trim (joined parts) ≠ "" := by
  have hne : text.toList.splitOn ',' ≠ [] := List.splitOn_ne_nil ',' text.toList
  have hcommas := h.noComma fun part => not_mem_of_mem_splitOn
  have hparts : parts ≠ [] := fun hnil => hne (hnil ▸ h).eq_nil
  intro hblank
  have hchars : ∀ c ∈ [','].intercalate parts, isBlank c = true := by
    simpa [joined] using trim_eq_empty_iff.mp hblank
  -- without a comma in it the list has one segment, which is all of the text
  have hwhole : parts = [[','].intercalate parts] := by
    rw [← List.splitOn_eq_singleton (comma_not_mem hchars),
      List.splitOn_intercalate ',' hcommas hparts]
  rw [hwhole] at h
  obtain ⟨part, hpart, hsubset⟩ := h.eq_singleton hne
  have htextPart : [','].intercalate (text.toList.splitOn ',') = part := by
    rw [hpart, List.intercalate_singleton]
  rw [List.intercalate_splitOn] at htextPart
  exact htext (trim_eq_empty_iff.mpr fun c hc => hchars c (hsubset (htextPart ▸ hc)))

theorem parseOrigins_of_loosens {text : String} {parts : List (List Char)}
    (h : Loosens (text.toList.splitOn ',') parts) : parseOrigins (joined parts) = parseOrigins text := by
  have hne : text.toList.splitOn ',' ≠ [] := List.splitOn_ne_nil ',' text.toList
  have hcommas := h.noComma fun part => not_mem_of_mem_splitOn
  have hparts : parts ≠ [] := fun hnil => hne (hnil ▸ h).eq_nil
  refine parseOrigins_congr ?_
  rw [segments_joined hcommas hparts, h.named_eq]
  rfl

theorem parseOrigins_of_load {text : String} (hload : load readUrl lookup = .ok settings)
    (hset : lookup .origins = some text) (htext : trim text ≠ "") :
    parseOrigins text = .ok settings.origins := by
  have horigins := (loadedFrom_of_load hload).origins
  have hvalue : lookup.value? .origins = some (trim text) :=
    Lookup.value?_eq_some_iff.mpr ⟨text, hset, htext, rfl⟩
  rw [readOrigins_eq, hvalue] at horigins
  exact (parseOrigins_congr (segments_trim text)).symm.trans horigins

theorem load_of_loosens {text : String} {parts : List (List Char)}
    (hload : load readUrl lookup = .ok settings) (hset : lookup .origins = some text)
    (htext : trim text ≠ "") (h : Loosens (text.toList.splitOn ',') parts) :
    load readUrl (lookup.set .origins (joined parts)) = .ok settings := by
  refine load_set_origins hload (trim_joined_ne_empty h htext) ?_
  rw [parseOrigins_of_loosens h]
  exact parseOrigins_of_load hload hset htext

end Settings

end ImageIntake
