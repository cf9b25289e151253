import ImageIntake.Proofs.Settings.Dependence
import ImageIntake.Proofs.Settings.Stage
import ImageIntake.Proofs.Text.Ascii
import ImageIntake.Settings.Environment

namespace ImageIntake

open Text

theorem Variable.name_ne_stage {which : Variable} (h : which ≠ .stage) :
    which.name ≠ "APP_ENV" := by
  cases which with
  | stage => exact absurd rfl h
  | _ => decide

namespace ProcessEnvironment

def set (env : ProcessEnvironment) (name : String) (value : ByteArray) : ProcessEnvironment :=
  fun other => if other = name then some value else env other

def ReadyForProduction (env : ProcessEnvironment) (readUrl : UrlReader) : Prop :=
  ∃ s, Settings.ofEnvironment readUrl (env.set "APP_ENV" "production".toUTF8) = .ok s

structure ReadersAgree (env : ProcessEnvironment) (readUrl : UrlReader) : Prop where
  accept : (∃ s, Settings.ofEnvironment readUrl env = .ok s) ↔ ∃ stage, Stage.ofEnvironment env = .ok stage
  stage : ∀ s stage, Settings.ofEnvironment readUrl env = .ok s → Stage.ofEnvironment env = .ok stage →
    s.stage = stage

variable {env : ProcessEnvironment} {readUrl : UrlReader}

theorem lookup_set_of_ne {which : Variable} {value : ByteArray} (h : which ≠ .stage) :
    (env.set "APP_ENV" value).lookup which = env.lookup which := by
  simp only [lookup, text?, set, if_neg (Variable.name_ne_stage h)]

theorem readStage_set_production :
    Settings.readStage (env.set "APP_ENV" "production".toUTF8).lookup = .ok .production := by
  have hvalue : (env.set "APP_ENV" "production".toUTF8).lookup .stage = some "production" := by
    simp only [lookup, text?, set, Variable.name, if_true, Option.bind_some, fromUTF8?_toUTF8]
  exact Settings.readStage_eq_ok_iff.mpr
    (.inr ⟨_, hvalue, spells_self (Stage.isPlainWord_name .production)⟩)

end ProcessEnvironment

namespace Settings

theorem load_eq_map_readStage {readUrl : UrlReader} {lookup lookup' : Lookup} {s : Settings}
    (hsame : ∀ which, which ≠ .stage → lookup which = lookup' which)
    (hload : load readUrl lookup = .ok s) (hproduction : s.stage = .production) :
    load readUrl lookup' = (readStage lookup').map fun stage => { s with stage } := by
  cases hstage : readStage lookup' with
  | error e => exact load_of_readStage_error hstage
  | ok stage =>
      have h := loadedFrom_of_load hload
      have hkey := h.apiKey
      rw [hproduction] at hkey
      -- the key is one that every stage takes, since production does
      obtain ⟨hset, hne⟩ := apiKey_of_production hkey
      have hset' : lookup'.value? .apiKey = some s.apiKey := by
        rw [← hset, Lookup.value?_congr (hsame .apiKey (by decide))]
      exact load_of_loadedFrom {
        stage := hstage
        endpoint := (readEndpoint_congr (hsame .endpoint (by decide))).symm.trans h.endpoint
        accessKeyId :=
          (Lookup.required_congr (hsame .accessKeyId (by decide))).symm.trans h.accessKeyId
        secretAccessKey :=
          (Lookup.required_congr (hsame .secretAccessKey (by decide))).symm.trans h.secretAccessKey
        region := by rw [← Lookup.value?_congr (hsame .region (by decide)), h.region]
        bucket := (Lookup.required_congr (hsame .bucket (by decide))).symm.trans h.bucket
        storeTimeout :=
          (readSeconds_congr (hsame .storeTimeout (by decide))).symm.trans h.storeTimeout
        publicBase := (readPublicBase_congr (hsame .publicBase (by decide))).symm.trans h.publicBase
        apiKey := readApiKey_of_value? hset' hne stage
        port := (readPort_congr (hsame .port (by decide))).symm.trans h.port
        origins := (readOrigins_congr (hsame .origins (by decide))).symm.trans h.origins
        requestTimeout :=
          (readSeconds_congr (hsame .requestTimeout (by decide))).symm.trans h.requestTimeout }

theorem readStageValue_trim (text : String) :
    readStageValue (some (trim text)) = readStageValue (some text) := by
  rw [readStageValue, readStageValue, Stage.parse, Stage.parse, Option.getD_some, Option.getD_some,
    trim_trim]

end Settings

namespace ProcessEnvironment

variable {env : ProcessEnvironment} {readUrl : UrlReader}

theorem ofEnvironment_eq (h : env.ReadyForProduction readUrl) :
    ∃ s : Settings, Settings.ofEnvironment readUrl env =
      (Settings.readStage env.lookup).map fun stage => { s with stage } := by
  obtain ⟨s, hs⟩ := h
  have hstage := (Settings.loadedFrom_of_load hs).stage
  rw [readStage_set_production] at hstage
  exact ⟨s, Settings.load_eq_map_readStage (fun which hne => lookup_set_of_ne hne) hs
    (Except.ok.inj hstage).symm⟩

theorem readStage_eq (h : ∀ text, env.text? "APP_ENV" = some text → trim text ≠ "") :
    Settings.readStage env.lookup = Stage.ofEnvironment env := by
  rw [Settings.readStage, Stage.ofEnvironment]
  cases htext : env.text? "APP_ENV" with
  | none =>
      have hvalue : env.lookup.value? .stage = none :=
        Lookup.value?_eq_none_iff.mpr fun whole hwhole => by cases htext.symm.trans hwhole
      rw [hvalue]
      exact congrArg _ htext.symm
  | some text =>
      have hvalue : env.lookup.value? .stage = some (trim text) :=
        Lookup.value?_eq_some_iff.mpr ⟨text, htext, h text htext, rfl⟩
      rw [hvalue, Settings.readStageValue_trim]
      exact congrArg _ htext.symm

theorem readersAgree_of_readStage_eq (h : env.ReadyForProduction readUrl)
    (hstage : Settings.readStage env.lookup = Stage.ofEnvironment env) : env.ReadersAgree readUrl := by
  obtain ⟨s, hs⟩ := ofEnvironment_eq h
  rw [hstage] at hs
  constructor
  · rw [hs]
    cases Stage.ofEnvironment env with
    | error => simp [Except.map]
    | ok stage => simp [Except.map]
  · intro s' stage hs' hstage'
    rw [hs, hstage'] at hs'
    cases hs'
    rfl

theorem readStage_of_blank {text : String} (htext : env.text? "APP_ENV" = some text)
    (hblank : trim text = "") : Settings.readStage env.lookup = .ok .development := by
  refine Settings.readStage_of_unset (Lookup.value?_eq_none_iff.mpr fun whole hwhole => ?_)
  cases htext.symm.trans hwhole
  exact hblank

theorem ofEnvironment_of_blank {text : String} (htext : env.text? "APP_ENV" = some text)
    (hblank : trim text = "") :
    Stage.ofEnvironment env = .error (.invalid .stage (.unknownStage "")) := by
  have hparse : Stage.parse (some text) = .error "" := by
    simp only [Stage.parse, Option.getD_some, hblank]
    decide
  have hname : env.text? Variable.stage.name = some text := htext
  rw [Stage.ofEnvironment, hname]
  simp only [Settings.readStageValue, hparse]

theorem readings_of_blank (h : env.ReadyForProduction readUrl) {text : String}
    (htext : env.text? "APP_ENV" = some text) (hblank : trim text = "") :
    (∃ s, Settings.ofEnvironment readUrl env = .ok s ∧ s.stage = .development) ∧
      Stage.ofEnvironment env = .error (.invalid .stage (.unknownStage "")) := by
  obtain ⟨s, hs⟩ := ofEnvironment_eq h
  rw [readStage_of_blank htext hblank] at hs
  exact ⟨⟨_, hs, rfl⟩, ofEnvironment_of_blank htext hblank⟩

theorem not_readersAgree_of_blank (h : env.ReadyForProduction readUrl) {text : String}
    (htext : env.text? "APP_ENV" = some text) (hblank : trim text = "") : ¬env.ReadersAgree readUrl := by
  intro hagree
  obtain ⟨⟨s, hs, -⟩, hrefused⟩ := readings_of_blank h htext hblank
  obtain ⟨stage, hstage⟩ := hagree.accept.mp ⟨s, hs⟩
  rw [hrefused] at hstage
  cases hstage

/-- With all other variables as production needs them, the two readings of the stage agree just if
its variable is not blank. If it is, then the settings are those of development, while the stage
alone is refused for its empty name. -/
theorem readers_agree_iff_not_blank (h : env.ReadyForProduction readUrl) :
    (env.ReadersAgree readUrl ↔ ∀ text, env.text? "APP_ENV" = some text → trim text ≠ "") ∧
    ∀ text, env.text? "APP_ENV" = some text → trim text = "" →
      (∃ s, Settings.ofEnvironment readUrl env = .ok s ∧ s.stage = .development) ∧
        Stage.ofEnvironment env = .error (.invalid .stage (.unknownStage "")) := by
  refine ⟨⟨?_, ?_⟩, fun text => readings_of_blank h⟩
  · intro hagree text htext hblank
    exact not_readersAgree_of_blank h htext hblank hagree
  · intro hnot
    exact readersAgree_of_readStage_eq h (readStage_eq hnot)

end ProcessEnvironment

namespace Sample

def others : List Variable := [.endpoint, .accessKeyId, .secretAccessKey, .region, .bucket,
  .storeTimeout, .publicBase, .apiKey, .port, .origins, .requestTimeout]

def process (stage : ByteArray) : ProcessEnvironment := fun name =>
  if name = "APP_ENV" then some stage
  else (others.find? (·.name == name)).bind fun which => (lookup which).map String.toUTF8

theorem text?_process (stage : ByteArray) :
    (process stage).text? "APP_ENV" = String.fromUTF8? stage := by
  simp only [ProcessEnvironment.text?, process, if_true, Option.bind_some]

theorem lookup_process {which : Variable} (h : which ≠ .stage) (stage : ByteArray) :
    (process stage).lookup which = lookup which := by
  have hfind : others.find? (·.name == which.name) = some which := by
    cases which with
    | stage => exact absurd rfl h
    | _ => decide
  simp only [ProcessEnvironment.lookup, ProcessEnvironment.text?, process,
    if_neg (Variable.name_ne_stage h), hfind, Option.bind_some]
  cases lookup which with
  | none => rfl
  | some text => exact fromUTF8?_toUTF8 text

theorem process_ready (stage : ByteArray) : (process stage).ReadyForProduction readUrl := by
  have hsame : ∀ which, which ≠ .stage → produced which =
      ((process stage).set "APP_ENV" "production".toUTF8).lookup which := by
    intro which hwhich
    rw [ProcessEnvironment.lookup_set_of_ne hwhich, lookup_process hwhich]
    cases which with
    | stage => exact absurd rfl hwhich
    | _ => rfl
  have hload := Settings.load_eq_map_readStage hsame load_produced rfl
  rw [ProcessEnvironment.readStage_set_production] at hload
  exact ⟨_, hload⟩

end Sample

namespace ProcessEnvironment

theorem readers_agree_iff_not_blank_spelled :
    (Sample.process "\u00a0PrODUCTion\n".toUTF8).ReadyForProduction Sample.readUrl ∧
      (Sample.process "\u00a0PrODUCTion\n".toUTF8).ReadersAgree Sample.readUrl ∧
      (Sample.process "\t ".toUTF8).ReadyForProduction Sample.readUrl ∧
      ¬(Sample.process "\t ".toUTF8).ReadersAgree Sample.readUrl := by
  have hspelled := Sample.process_ready "\u00a0PrODUCTion\n".toUTF8
  have hblank := Sample.process_ready "\t ".toUTF8
  refine ⟨hspelled, (readers_agree_iff_not_blank hspelled).1.mpr ?_, hblank, fun hagree => ?_⟩
  · intro text htext
    rw [Sample.text?_process, fromUTF8?_toUTF8] at htext
    cases htext
    decide +kernel
  · have htext : (Sample.process "\t ".toUTF8).text? "APP_ENV" = some "\t " := by
      rw [Sample.text?_process, fromUTF8?_toUTF8]
    exact (readers_agree_iff_not_blank hblank).1.mp hagree _ htext (by decide +kernel)

theorem exists_readers_differ : ¬∀ env : ProcessEnvironment,
    env.ReadyForProduction Sample.readUrl → env.ReadersAgree Sample.readUrl := by
  intro hall
  have htext : (Sample.process "".toUTF8).text? "APP_ENV" = some "" := by
    rw [Sample.text?_process, fromUTF8?_toUTF8]
  have hready := Sample.process_ready "".toUTF8
  exact not_readersAgree_of_blank hready htext (by decide +kernel) (hall _ hready)

end ProcessEnvironment

end ImageIntake
