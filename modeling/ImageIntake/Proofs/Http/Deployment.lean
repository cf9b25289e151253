import ImageIntake.Proofs.Http.Credential
import ImageIntake.Proofs.Settings.Stage

namespace ImageIntake

open Text

namespace Http.Service

theorem development_key_stays_out_of_production {readUrl : UrlReader} {lookup : Lookup}
    {settings : Settings} (hload : Settings.load readUrl lookup = .ok settings)
    (render : ByteArray → Option RenditionPair) :
    (settings.stage = .production ↔
      ∃ text, lookup .stage = some text ∧ Spells text "production") ∧
    (settings.stage = .production →
      (∃ text, lookup .apiKey = some text ∧ trim text ≠ "" ∧ settings.apiKey = trim text) ∧
      settings.apiKey ≠ "dev-123" ∧
      ∀ (route : Route) (r : Request), route.isGuarded = true → r.PostsTo route →
        r.header? "x-api-key" = some "dev-123".toUTF8 →
        ∃ reply, reply.status = 401 ∧ Dismisses ⟨settings, render⟩ r reply) ∧
    (settings.stage ≠ .production →
      (∀ text, lookup .apiKey = some text → trim text ≠ "" → settings.apiKey = trim text) ∧
      ((∀ text, lookup .apiKey = some text → trim text = "") → settings.apiKey = "dev-123")) := by
  have hloaded := Settings.loadedFrom_of_load hload
  refine ⟨Settings.stage_eq_production_iff hloaded.stage, ?_, ?_⟩
  · intro hproduction
    have hkey := hloaded.apiKey
    rw [hproduction] at hkey
    obtain ⟨hset, hne⟩ := Settings.apiKey_of_production hkey
    refine ⟨Lookup.value?_eq_some_iff.mp hset, hne, ?_⟩
    intro route r hguarded hr hshown
    have hother : r.header? Guard.headerName ≠ some settings.apiKey.toUTF8 := by
      intro hsame
      have hbytes := Option.some.inj (hshown.symm.trans hsame)
      exact hne (String.toByteArray_inj.mp hbytes).symm
    exact ⟨_, rfl, dismisses_unauthorized ⟨settings, render⟩ hguarded hr hother⟩
  · intro helsewhere
    have hkey := Settings.apiKey_elsewhere helsewhere hloaded.apiKey
    constructor
    · intro text htext hne
      rw [hkey, Lookup.value?_eq_some_iff.mpr ⟨text, htext, hne, rfl⟩, Option.getD_some]
    · intro hblank
      rw [hkey, Lookup.value?_eq_none_iff.mpr hblank, Option.getD_none]
      rfl

theorem development_key_stays_out_of_production_spelled :
    Settings.load Sample.readUrl Sample.produced = .ok Sample.producedSettings ∧
      Spells "\u00a0PrODUCTion\n" "production" ∧ Sample.producedSettings.apiKey ≠ "dev-123" ∧
      ∃ reply, reply.status = 401 ∧
        Dismisses ⟨Sample.producedSettings, fun _ => none⟩ (Sample.showing "dev-123") reply := by
  obtain ⟨hspelled, hproduction, -⟩ :=
    development_key_stays_out_of_production Sample.load_produced fun _ => none
  have hstage : Sample.producedSettings.stage = .production :=
    hspelled.mpr ⟨_, rfl, Sample.spells_production⟩
  obtain ⟨-, hne, hrefused⟩ := hproduction hstage
  exact ⟨Sample.load_produced, Sample.spells_production, hne,
    hrefused .presign _ rfl (Sample.showing_posts _) (Sample.header?_showing _)⟩

end Http.Service

end ImageIntake
