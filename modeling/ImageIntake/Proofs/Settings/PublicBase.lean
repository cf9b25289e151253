import ImageIntake.Proofs.Settings.Faults

namespace ImageIntake

open Text

def Lookup.set (lookup : Lookup) (which : Variable) (text : String) : Lookup :=
  fun other => if other = which then some text else lookup other

def Lookup.HidesBlank (lookup : Lookup) : Prop :=
  ∃ text front blank slashes, lookup.Holds .publicBase text ∧
    text.toList = front ++ [blank] ++ List.replicate slashes '/' ∧ isBlank blank = true

namespace Settings

structure HasNormalBase (readUrl : UrlReader) (lookup : Lookup) (s : Settings) : Prop where
  ne_empty : s.publicBase ≠ ""
  last_ne_slash : s.publicBase.toList.getLast? ≠ some '/'
  first_not_blank : ∀ c, s.publicBase.toList.head? = some c → isBlank c = false
  last_not_blank : ∀ c, s.publicBase.toList.getLast? = some c → isBlank c = false
  stays : ∃ s', load readUrl (lookup.set .publicBase s.publicBase) = .ok s' ∧
    s'.publicBase = s.publicBase

variable {readUrl : UrlReader} {lookup : Lookup} {base : String}

theorem readPublicBase_eq_ok_iff : readPublicBase lookup = .ok base ↔
    ∃ text, lookup.value? .publicBase = some text ∧ trimEndOf '/' text = base ∧ base ≠ "" := by
  rw [readPublicBase, Lookup.required]
  cases lookup.value? .publicBase with
  | none => simp
  | some text =>
      by_cases hslashes : trimEndOf '/' text = ""
      · simp only [if_pos hslashes, Option.some.injEq, exists_eq_left', reduceCtorEq, false_iff]
        rintro ⟨rfl, hne⟩
        exact hne hslashes
      · simp only [if_neg hslashes, Option.some.injEq, exists_eq_left', Except.ok.injEq]
        constructor
        · rintro rfl
          exact ⟨rfl, hslashes⟩
        · rintro ⟨hbase, -⟩
          exact hbase

theorem last_ne_slash (h : readPublicBase lookup = .ok base) :
    base.toList.getLast? ≠ some '/' := by
  obtain ⟨text, -, rfl, -⟩ := readPublicBase_eq_ok_iff.mp h
  rw [toList_trimEndOf_eq]
  exact fun hlast => absurd (getLast?_rdropWhile hlast) (by decide)

theorem first_not_blank (h : readPublicBase lookup = .ok base) {c : Char}
    (hc : base.toList.head? = some c) : isBlank c = false := by
  obtain ⟨text, hvalue, rfl, -⟩ := readPublicBase_eq_ok_iff.mp h
  obtain ⟨whole, -, -, rfl⟩ := Lookup.value?_eq_some_iff.mp hvalue
  rw [toList_trimEndOf_eq, toList_trim] at hc
  -- the slashes were taken from the other end
  exact head?_stripList (head?_of_front (List.rdropWhile_prefix (· == '/') _) hc)

theorem endsBlank_iff (h : readPublicBase lookup = .ok base) :
    (∃ c, base.toList.getLast? = some c ∧ isBlank c = true) ↔ lookup.HidesBlank := by
  obtain ⟨text, hvalue, rfl, -⟩ := readPublicBase_eq_ok_iff.mp h
  constructor
  · rintro ⟨blank, hlast, hblank⟩
    obtain ⟨front, hfront⟩ := List.getLast?_eq_some_iff.mp hlast
    obtain ⟨slashes, htext⟩ := exists_trimEndOf '/' text
    rw [hfront] at htext
    exact ⟨text, front, blank, slashes, Lookup.holds_iff.mpr hvalue, htext, hblank⟩
  · rintro ⟨text', front, blank, slashes, hholds, htext, hblank⟩
    have hne : blank ≠ '/' := by
      rintro rfl
      exact absurd hblank (by decide)
    rw [hholds.eq hvalue] at htext
    exact ⟨blank, by rw [toList_trimEndOf_of_append htext hne, List.getLast?_concat], hblank⟩

theorem readPublicBase_set (h : readPublicBase lookup = .ok base)
    (hlast : ∀ c, base.toList.getLast? = some c → isBlank c = false) :
    readPublicBase (lookup.set .publicBase base) = .ok base := by
  obtain ⟨-, -, -, hne⟩ := readPublicBase_eq_ok_iff.mp h
  have htrim : trim base = base := by
    rw [trim, stripList_of_ends (fun c => first_not_blank h) hlast, String.ofList_toList]
  have hslashes : trimEndOf '/' base = base := by
    rw [← String.toList_inj, toList_trimEndOf_eq]
    refine rdropWhile_of_getLast? fun c hc => beq_eq_false_iff_ne.mpr ?_
    rintro rfl
    exact last_ne_slash h hc
  have hvalue : (lookup.set .publicBase base).value? .publicBase = some base :=
    Lookup.value?_eq_some_iff.mpr ⟨base, if_pos rfl, by rwa [htrim], htrim.symm⟩
  exact readPublicBase_eq_ok_iff.mpr ⟨base, hvalue, hslashes, hne⟩

theorem not_endsBlank (h : readPublicBase (lookup.set .publicBase base) = .ok base) {c : Char}
    (hc : base.toList.getLast? = some c) : isBlank c = false := by
  obtain ⟨text, hvalue, hslashes, -⟩ := readPublicBase_eq_ok_iff.mp h
  obtain ⟨whole, hwhole, -, rfl⟩ := Lookup.value?_eq_some_iff.mp hvalue
  have hbase : base = whole := Option.some.inj ((if_pos rfl).symm.trans hwhole)
  subst hbase
  have hprefix : base.toList <+: stripList isBlank base.toList := by
    have hdropped := List.rdropWhile_prefix (· == '/') (stripList isBlank base.toList)
    rwa [← toList_trim, ← toList_trimEndOf_eq, hslashes, toList_trim] at hdropped
  have hstrip : stripList isBlank base.toList = base.toList :=
    (stripList_sublist isBlank base.toList).eq_of_length_le hprefix.length_le
  rw [← hstrip, stripList_eq] at hc
  exact getLast?_rdropWhile hc

theorem load_set_publicBase {s : Settings} {text : String} (h : load readUrl lookup = .ok s)
    (hbase : readPublicBase (lookup.set .publicBase text) = .ok base) :
    load readUrl (lookup.set .publicBase text) = .ok { s with publicBase := base } :=
  load_of_loadedFrom { loadedFrom_of_load h with publicBase := hbase }

theorem stays_iff {s : Settings} (h : load readUrl lookup = .ok s) :
    (∃ s', load readUrl (lookup.set .publicBase s.publicBase) = .ok s' ∧
      s'.publicBase = s.publicBase) ↔
      ¬lookup.HidesBlank := by
  have hbase := (loadedFrom_of_load h).publicBase
  rw [← endsBlank_iff hbase]
  constructor
  · rintro ⟨s', hs', hsame⟩ ⟨c, hc, hblank⟩
    have hagain := (loadedFrom_of_load hs').publicBase
    rw [hsame] at hagain
    rw [not_endsBlank hagain hc] at hblank
    cases hblank
  · intro hnot
    have hlast : ∀ c, s.publicBase.toList.getLast? = some c → isBlank c = false := by
      intro c hc
      exact Bool.eq_false_iff.mpr fun hblank => hnot ⟨c, hc, hblank⟩
    exact ⟨_, load_set_publicBase h (readPublicBase_set hbase hlast), rfl⟩

/-- The base of accepted settings is normal just if no blank stands before the slashes at the end of
its variable. If one does, then the base ends in that blank, and it is not read as itself. -/
theorem base_is_normal_iff {s : Settings} (h : load readUrl lookup = .ok s) :
    (HasNormalBase readUrl lookup s ↔ ¬lookup.HidesBlank) ∧
    s.publicBase ≠ "" ∧ s.publicBase.toList.getLast? ≠ some '/' ∧
    (∀ c, s.publicBase.toList.head? = some c → isBlank c = false) ∧
    (lookup.HidesBlank → (∃ c, s.publicBase.toList.getLast? = some c ∧ isBlank c = true) ∧
      ∀ s', load readUrl (lookup.set .publicBase s.publicBase) = .ok s' →
        s'.publicBase ≠ s.publicBase) := by
  have hbase := (loadedFrom_of_load h).publicBase
  obtain ⟨-, -, -, hne⟩ := readPublicBase_eq_ok_iff.mp hbase
  refine ⟨⟨fun hnormal => (stays_iff h).mp hnormal.stays, fun hnot => ?_⟩, hne,
    last_ne_slash hbase, fun c => first_not_blank hbase, fun hhides => ⟨?_, ?_⟩⟩
  · have hstays := (stays_iff h).mpr hnot
    rw [← endsBlank_iff hbase] at hnot
    exact {
      ne_empty := hne
      last_ne_slash := last_ne_slash hbase
      first_not_blank := fun c => first_not_blank hbase
      last_not_blank := fun c hc => Bool.eq_false_iff.mpr fun hblank => hnot ⟨c, hc, hblank⟩
      stays := hstays }
  · exact (endsBlank_iff hbase).mpr hhides
  · intro s' hs' hsame
    exact (stays_iff h).mp ⟨s', hs', hsame⟩ hhides

end Settings

namespace Sample

def spaced : Lookup
  | .publicBase => some "https://cdn.example.com /"
  | which => lookup which

def spacedSettings : Settings := { loaded with publicBase := "https://cdn.example.com " }

theorem load_spaced : Settings.load readUrl spaced = .ok spacedSettings := by
  have hloaded := Settings.loadedFrom_of_load load_lookup
  have hbase : Settings.readPublicBase spaced = .ok spacedSettings.publicBase := by decide
  exact Settings.load_of_loadedFrom { hloaded with publicBase := hbase }

theorem spaced_hidesBlank : spaced.HidesBlank :=
  ⟨"https://cdn.example.com /", "https://cdn.example.com".toList, ' ', 1,
    ⟨_, rfl, by decide, by decide⟩, by decide, by decide⟩

end Sample

namespace Settings

theorem base_is_normal_iff_spaced :
    load Sample.readUrl Sample.spaced = .ok Sample.spacedSettings ∧ Sample.spaced.HidesBlank ∧
      ¬HasNormalBase Sample.readUrl Sample.spaced Sample.spacedSettings ∧
      load Sample.readUrl Sample.lookup = .ok Sample.loaded ∧
      HasNormalBase Sample.readUrl Sample.lookup Sample.loaded := by
  refine ⟨Sample.load_spaced, Sample.spaced_hidesBlank, fun hnormal => ?_, Sample.load_lookup, ?_⟩
  · exact (base_is_normal_iff Sample.load_spaced).1.mp hnormal Sample.spaced_hidesBlank
  · have hbase := (loadedFrom_of_load Sample.load_lookup).publicBase
    have hlast : Sample.loaded.publicBase.toList.getLast? = some 'm' := by decide
    refine (base_is_normal_iff Sample.load_lookup).1.mpr fun hhides => ?_
    obtain ⟨c, hc, hblank⟩ := (endsBlank_iff hbase).mpr hhides
    cases hlast.symm.trans hc
    exact absurd hblank (by decide)

theorem exists_base_not_normal :
    ¬∀ (lookup : Lookup) (s : Settings), load Sample.readUrl lookup = .ok s →
      HasNormalBase Sample.readUrl lookup s := by
  intro hall
  have hnormal := hall Sample.spaced Sample.spacedSettings Sample.load_spaced
  exact absurd (hnormal.last_not_blank ' ' (by decide)) (by decide)

end Settings

end ImageIntake
