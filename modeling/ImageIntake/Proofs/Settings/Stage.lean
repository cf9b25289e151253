import ImageIntake.Proofs.Settings.Load

namespace ImageIntake

open Text

namespace Settings

theorem readStageValue_eq_ok_iff {value : Option String} {stage : Stage} :
    readStageValue value = .ok stage ↔ Stage.parse value = .ok stage := by
  rw [readStageValue]
  cases Stage.parse value with
  | ok found => simp
  | error => simp

theorem spells_trim_iff {text : String} {stage : Stage} :
    Spells (trim text) stage.name ↔ Spells text stage.name := by
  rw [← toLower_trim_eq_iff (Stage.isPlainWord_name stage), trim_trim,
    toLower_trim_eq_iff (Stage.isPlainWord_name stage)]

theorem not_spells_of_blank {text : String} (h : trim text = "") (stage : Stage) :
    ¬Spells text stage.name := by
  rw [← toLower_trim_eq_iff (Stage.isPlainWord_name stage), h]
  cases stage <;> decide

theorem readStage_eq_ok_iff {lookup : Lookup} {stage : Stage} :
    readStage lookup = .ok stage ↔
      lookup.value? .stage = none ∧ stage = .development ∨
        ∃ text, lookup .stage = some text ∧ Spells text stage.name := by
  rw [readStage, readStageValue_eq_ok_iff]
  cases hvalue : lookup.value? .stage with
  | none =>
      have hblank := Lookup.value?_eq_none_iff.mp hvalue
      have hnone : ¬∃ text, lookup .stage = some text ∧ Spells text stage.name := by
        rintro ⟨text, htext, hspells⟩
        exact not_spells_of_blank (hblank text htext) stage hspells
      simp [Stage.parse_none, hnone, eq_comm]
  | some value =>
      obtain ⟨text, htext, -, rfl⟩ := Lookup.value?_eq_some_iff.mp hvalue
      simp [Stage.parse_eq_ok_iff, spells_trim_iff, htext]

theorem stage_eq_production_iff {lookup : Lookup} {stage : Stage}
    (h : readStage lookup = .ok stage) :
    stage = .production ↔ ∃ text, lookup .stage = some text ∧ Spells text "production" := by
  constructor
  · rintro rfl
    rcases readStage_eq_ok_iff.mp h with ⟨-, hdevelopment⟩ | hspells
    · cases hdevelopment
    · exact hspells
  · intro hspells
    have hproduction : readStage lookup = .ok .production :=
      readStage_eq_ok_iff.mpr (.inr hspells)
    exact Except.ok.inj (h.symm.trans hproduction)

end Settings

namespace Sample

def produced : Lookup
  | .stage => some "\u00a0PrODUCTion\n"
  | which => lookup which

def producedSettings : Settings := { loaded with stage := .production }

theorem spells_production : Spells "\u00a0PrODUCTion\n" "production" := by
  refine ⟨['\u00a0'], "PrODUCTion".toList, ['\n'], by decide +kernel, ?_, ?_, by decide +kernel⟩
  · exact List.forall_mem_singleton.mpr (by decide)
  · exact List.forall_mem_singleton.mpr (by decide)

theorem load_produced : Settings.load readUrl produced = .ok producedSettings := by
  have hloaded := Settings.loadedFrom_of_load load_lookup
  have hstage : Settings.readStage produced = .ok .production :=
    Settings.readStage_eq_ok_iff.mpr (.inr ⟨_, rfl, spells_production⟩)
  have hkey : Settings.readApiKey produced .production = .ok producedSettings.apiKey := by
    decide +kernel
  exact Settings.load_of_loadedFrom { hloaded with stage := hstage, apiKey := hkey }

end Sample

end ImageIntake
