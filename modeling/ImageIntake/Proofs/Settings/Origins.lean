import ImageIntake.Http.Service
import ImageIntake.Proofs.Settings.Load
import ImageIntake.Proofs.Text.Trim

namespace ImageIntake

open Text

namespace Settings

theorem mem_segments {list origin : String} : origin ∈ segments list ↔
    origin ≠ "" ∧ ∃ segment ∈ list.toList.splitOn ',', trim (String.ofList segment) = origin := by
  rw [segments, List.mem_filter, List.mem_map, bne_iff_ne, and_comm]

theorem segments_eq (list : String) : segments list =
    (((list.toList.splitOn ',').map (stripList isBlank)).map String.ofList).filter (· != "") := by
  rw [segments, List.map_map]
  simp only [trim, String.toList_ofList, Function.comp_def]

theorem segments_trim (list : String) : segments (trim list) = segments list := by
  have hcomma : isBlank ',' = false := by decide
  rw [segments_eq, toList_trim, map_stripList_splitOn hcomma, ← segments_eq]

theorem segments_of_blank {list : String} (h : trim list = "") : segments list = [] := by
  rw [← segments_trim, h]
  decide +kernel

theorem mapM_checkOrigin {list origins : List String} (h : list.mapM checkOrigin = .ok origins) :
    origins = list ∧ ∀ origin ∈ list, Http.isHeaderText origin = true := by
  induction list generalizing origins with
  | nil =>
      cases h
      exact ⟨rfl, nofun⟩
  | cons origin list ih =>
      rw [List.mapM_cons] at h
      obtain ⟨checked, hchecked, h⟩ := bind_eq_ok h
      obtain ⟨rest, hrest, h⟩ := bind_eq_ok h
      cases h
      obtain ⟨rfl, hlist⟩ := ih hrest
      rw [checkOrigin] at hchecked
      split at hchecked
      · next hlegal =>
        cases hchecked
        exact ⟨rfl, List.forall_mem_cons.mpr ⟨hlegal, hlist⟩⟩
      · cases hchecked

theorem mapM_checkOrigin_error {list : List String} {e : SettingsError}
    (h : list.mapM checkOrigin = .error e) :
    ∃ origin ∈ list, Http.isHeaderText origin = false ∧
      e = .invalid .origins (.badOrigin origin) := by
  induction list with
  | nil => cases h
  | cons origin list ih =>
      by_cases hlegal : Http.isHeaderText origin = true
      · have hchecked : checkOrigin origin = .ok origin := if_pos hlegal
        rw [List.mapM_cons, hchecked] at h
        cases hlist : list.mapM checkOrigin with
        | ok origins =>
            rw [hlist] at h
            cases h
        | error e' =>
            rw [hlist] at h
            cases h
            obtain ⟨other, hother, hillegal⟩ := ih hlist
            exact ⟨other, List.mem_cons_of_mem _ hother, hillegal⟩
      · have hchecked : checkOrigin origin = .error (.invalid .origins (.badOrigin origin)) :=
          if_neg hlegal
        rw [List.mapM_cons, hchecked] at h
        cases h
        exact ⟨origin, List.mem_cons_self, Bool.eq_false_iff.mpr hlegal, rfl⟩

theorem origins_of_unset {lookup : Lookup} {origins : List String}
    (h : readOrigins lookup = .ok origins) (hunset : lookup.value? .origins = none) :
    origins = ["http://localhost:3000"] := by
  rw [readOrigins, hunset] at h
  rw [(mapM_checkOrigin h).1]
  decide +kernel

theorem origins_of_set {lookup : Lookup} {origins : List String} {text : String}
    (h : readOrigins lookup = .ok origins) (hset : lookup .origins = some text)
    (htext : trim text ≠ "") : origins = segments text := by
  have hvalue : lookup.value? .origins = some (trim text) := by
    simp only [Lookup.value?, hset, if_neg htext]
  rw [readOrigins, hvalue] at h
  rw [(mapM_checkOrigin h).1]
  exact segments_trim text

theorem star_mem_origins {lookup : Lookup} {origins : List String}
    (h : readOrigins lookup = .ok origins) :
    "*" ∈ origins ↔ ∃ text, lookup .origins = some text ∧ "*" ∈ segments text := by
  cases hlookup : lookup .origins with
  | none =>
      have hunset : lookup.value? .origins = none := by simp only [Lookup.value?, hlookup]
      rw [origins_of_unset h hunset]
      simp
  | some text =>
      by_cases htext : trim text = ""
      · have hunset : lookup.value? .origins = none := by
          simp only [Lookup.value?, hlookup, if_pos htext]
        rw [origins_of_unset h hunset]
        simp [segments_of_blank htext]
      · rw [origins_of_set h hlookup htext]
        simp

end Settings

namespace Http.Service

theorem isServable_iff {s : Service} : s.isServable = true ↔ "*" ∉ s.settings.origins := by
  rw [isServable, Cors.isServable, Bool.not_eq_true', ← Bool.not_eq_true, List.contains_iff_mem]
  rfl

/-- From settings that were accepted a service can be built if and only if no segment of the list
of origins is a star, blanks aside. -/
theorem servable_iff_no_starred_segment {readUrl : UrlReader} {lookup : Lookup}
    {settings : Settings} (hload : Settings.load readUrl lookup = .ok settings) 
    (render : ByteArray → Option RenditionPair) :
    (Service.mk settings render).isServable = true ↔
      ∀ text, lookup .origins = some text →
        ∀ segment ∈ text.toList.splitOn ',', trim (String.ofList segment) ≠ "*" := by
  have horigins := Settings.star_mem_origins (Settings.loadedFrom_of_load hload).origins
  rw [isServable_iff]
  constructor
  · intro hnot text hset segment hsegment hstar
    have hmem : "*" ∈ Settings.segments text :=
      Settings.mem_segments.mpr ⟨by decide, segment, hsegment, hstar⟩
    exact hnot (horigins.mpr ⟨text, hset, hmem⟩)
  · intro hall hmem
    obtain ⟨text, hset, hstar⟩ := horigins.mp hmem
    obtain ⟨-, segment, hsegment, heq⟩ := Settings.mem_segments.mp hstar
    exact hall text hset segment hsegment heq

theorem servable_iff_no_starred_segment_sample :
    Settings.load Sample.readUrl Sample.lookup = .ok Sample.loaded ∧
      (Service.mk Sample.loaded fun _ => none).isServable = true ∧
      ∀ segment ∈ "http://localhost:3000,".toList.splitOn ',',
        trim (String.ofList segment) ≠ "*" := by
  have hservable : (Service.mk Sample.loaded fun _ => none).isServable = true := by decide +kernel
  have hsegments := (servable_iff_no_starred_segment Sample.load_lookup fun _ => none).mp hservable
  exact ⟨Sample.load_lookup, hservable, hsegments _ rfl⟩

end Http.Service

namespace Sample

def starred : Lookup
  | .origins => some "https://app.example.com, *"
  | which => lookup which

def starredSettings : Settings :=
  { loaded with origins := ["https://app.example.com", "*"] }

theorem load_starred : Settings.load readUrl starred = .ok starredSettings := by
  have hloaded := Settings.loadedFrom_of_load load_lookup
  have horigins : Settings.readOrigins starred = .ok starredSettings.origins := by decide +kernel
  exact Settings.load_of_loadedFrom { hloaded with origins := horigins }

end Sample

namespace Http.Service

theorem exists_loaded_not_servable :
    ¬∀ (lookup : Lookup) (settings : Settings) (render : ByteArray → Option RenditionPair),
      Settings.load Sample.readUrl lookup = .ok settings → (Service.mk settings render).isServable = true := by
  intro hall
  have hservable := hall Sample.starred Sample.starredSettings (fun _ => none) Sample.load_starred
  exact absurd hservable (by decide +kernel)

end Http.Service

end ImageIntake
