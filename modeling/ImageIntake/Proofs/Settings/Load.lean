import ImageIntake.Proofs.Text.Spelling
import ImageIntake.Settings.Basic
import Mathlib.Control.Monad.Basic

namespace ImageIntake

open Text

namespace Stage

theorem isPlainWord_name (stage : Stage) : IsPlainWord stage.name := by
  refine isPlainWord_of_all ?_
  cases stage <;> decide +kernel

theorem find?_name (stage : Stage) : all.find? (·.name == stage.name) = some stage := by
  cases stage <;> decide

theorem parse_eq_ok_iff {text : String} {stage : Stage} :
    parse (some text) = .ok stage ↔ Spells text stage.name := by
  rw [← toLower_trim_eq_iff (isPlainWord_name stage)]
  constructor
  · intro h
    simp only [parse, Option.getD_some] at h
    split at h
    · next found hfind =>
      cases h
      have hname := List.find?_some hfind
      simp only [beq_iff_eq] at hname
      exact hname.symm
    · cases h
  · intro hlower
    simp only [parse, Option.getD_some, hlower, find?_name]

theorem parse_none : parse none = .ok .development := by
  calc parse none = parse (some "development") := by
        rw [parse, parse, Option.getD_none, Option.getD_some]
    _ = .ok .development := parse_eq_ok_iff.mpr (spells_self (isPlainWord_name .development))

end Stage

theorem Lookup.value?_eq_some_iff {lookup : Lookup} {which : Variable} {text : String} :
    lookup.value? which = some text ↔
      ∃ whole, lookup which = some whole ∧ trim whole ≠ "" ∧ text = trim whole := by
  rw [value?]
  constructor
  · intro h
    split at h
    · cases h
    · next whole hwhole =>
      split at h
      · cases h
      · next hne =>
        cases h
        exact ⟨whole, hwhole, hne, rfl⟩
  · rintro ⟨whole, hwhole, hne, rfl⟩
    simp only [hwhole, if_neg hne]

theorem Lookup.value?_eq_none_iff {lookup : Lookup} {which : Variable} :
    lookup.value? which = none ↔ ∀ whole, lookup which = some whole → trim whole = "" := by
  rw [value?]
  cases lookup which with
  | none => simp
  | some whole => simp

theorem Lookup.value?_ne_empty {lookup : Lookup} {which : Variable} {text : String}
    (h : lookup.value? which = some text) : text ≠ "" := by
  obtain ⟨whole, -, hne, rfl⟩ := value?_eq_some_iff.mp h
  exact hne

namespace Settings

structure LoadedFrom (readUrl : UrlReader) (lookup : Lookup) (s : Settings) : Prop where
  stage : readStage lookup = .ok s.stage
  endpoint : readEndpoint readUrl lookup = .ok s.store.endpoint
  accessKeyId : lookup.required .accessKeyId = .ok s.store.accessKeyId
  secretAccessKey : lookup.required .secretAccessKey = .ok s.store.secretAccessKey
  region : (lookup.value? .region).getD defaultRegion = s.store.region
  bucket : lookup.required .bucket = .ok s.store.bucket
  storeTimeout : readSeconds lookup .storeTimeout = .ok s.store.timeout
  publicBase : readPublicBase lookup = .ok s.publicBase
  apiKey : readApiKey lookup s.stage = .ok s.apiKey
  port : readPort lookup = .ok s.port
  origins : readOrigins lookup = .ok s.origins
  requestTimeout : readSeconds lookup .requestTimeout = .ok s.requestTimeout

theorem bind_eq_ok {ε α β : Type} {x : Except ε α} {f : α → Except ε β} {b : β}
    (h : (x >>= f) = .ok b) : ∃ a, x = .ok a ∧ f a = .ok b := by
  cases x with
  | error => cases h
  | ok a => exact ⟨a, rfl, h⟩

theorem loadedFrom_of_load {readUrl : UrlReader} {lookup : Lookup} {s : Settings}
    (h : load readUrl lookup = .ok s) : LoadedFrom readUrl lookup s := by
  obtain ⟨stage, hstage, h⟩ := bind_eq_ok h
  obtain ⟨endpoint, hendpoint, h⟩ := bind_eq_ok h
  obtain ⟨accessKeyId, haccess, h⟩ := bind_eq_ok h
  obtain ⟨secretAccessKey, hsecret, h⟩ := bind_eq_ok h
  obtain ⟨bucket, hbucket, h⟩ := bind_eq_ok h
  obtain ⟨timeout, htimeout, h⟩ := bind_eq_ok h
  obtain ⟨publicBase, hbase, h⟩ := bind_eq_ok h
  obtain ⟨apiKey, hkey, h⟩ := bind_eq_ok h
  obtain ⟨port, hport, h⟩ := bind_eq_ok h
  obtain ⟨origins, horigins, h⟩ := bind_eq_ok h
  obtain ⟨requestTimeout, hrequest, h⟩ := bind_eq_ok h
  cases h
  exact ⟨hstage, hendpoint, haccess, hsecret, rfl, hbucket, htimeout, hbase, hkey, hport,
    horigins, hrequest⟩

theorem load_of_loadedFrom {readUrl : UrlReader} {lookup : Lookup} {s : Settings}
    (h : LoadedFrom readUrl lookup s) : load readUrl lookup = .ok s := by
  simp only [load, h.stage, h.endpoint, h.accessKeyId, h.secretAccessKey, h.region, h.bucket,
    h.storeTimeout, h.publicBase, h.port, h.origins, h.requestTimeout, bind, Except.bind, h.apiKey]
  rfl

theorem readStageValue_of_parse {value : Option String} {stage : Stage}
    (h : Stage.parse value = .ok stage) : readStageValue value = .ok stage := by
  simp only [readStageValue, h]

theorem readStage_of_unset {lookup : Lookup} (h : lookup.value? .stage = none) :
    readStage lookup = .ok .development := by
  rw [readStage, h]
  exact readStageValue_of_parse Stage.parse_none

theorem apiKey_ne_empty {lookup : Lookup} {stage : Stage} {key : String}
    (h : readApiKey lookup stage = .ok key) : key ≠ "" := by
  rw [readApiKey] at h
  split at h
  · next hvalue =>
    split at h
    · cases h
    · cases h
      exact Lookup.value?_ne_empty hvalue
  · split at h
    · cases h
      decide
    · cases h

theorem apiKey_of_production {lookup : Lookup} {key : String}
    (h : readApiKey lookup .production = .ok key) :
    lookup.value? .apiKey = some key ∧ key ≠ developmentKey := by
  rw [readApiKey] at h
  split at h
  · next shown hshown =>
    split at h
    · cases h
    · next hallowed =>
      cases h
      refine ⟨hshown, fun hkey => hallowed ⟨hkey, rfl⟩⟩
  · cases h

theorem apiKey_elsewhere {lookup : Lookup} {stage : Stage} {key : String}
    (hstage : stage ≠ .production) (h : readApiKey lookup stage = .ok key) :
    key = (lookup.value? .apiKey).getD developmentKey := by
  have hdefault : stage.allowsDefaultKey = true := by
    cases stage with
    | production => exact absurd rfl hstage
    | staging | development => rfl
  rw [readApiKey, hdefault] at h
  split at h
  · next hshown =>
    simp only [Bool.true_eq_false, and_false, if_false, Except.ok.injEq] at h
    rw [hshown, Option.getD_some, h]
  · next hunset =>
    simp only [if_true, Except.ok.injEq] at h
    rw [hunset, Option.getD_none, h]

theorem seconds_pos {lookup : Lookup} {which : Variable} {span : Span}
    (h : readSeconds lookup which = .ok span) : 0 < span.nanos := by
  rw [readSeconds] at h
  split at h
  · cases h
    decide
  · split at h
    · split at h
      · next n _ hn =>
        cases h
        exact Nat.mul_pos hn (by decide)
      · cases h
    · cases h

end Settings

namespace Sample

def lookup : Lookup
  | .endpoint => some "http://[::1]:9000"
  | .accessKeyId => some "id"
  | .secretAccessKey => some "secret"
  | .bucket => some "uploads"
  | .storeTimeout => some "10"
  | .publicBase => some "https://cdn.example.com/"
  | .apiKey => some " opensesame "
  | .origins => some "http://localhost:3000,"
  | _ => none

def readUrl : UrlReader := fun text =>
  if text = "http://[::1]:9000" then .ok "http" else .error "relative URL without a base"

def loaded : Settings where
  stage := .development
  store := ⟨"http://[::1]:9000", "id", "secret", "auto", "uploads", .ofSeconds 10⟩
  publicBase := "https://cdn.example.com"
  apiKey := "opensesame"
  port := 8000
  origins := ["http://localhost:3000"]
  requestTimeout := .ofSeconds 30

theorem load_lookup : Settings.load readUrl lookup = .ok loaded :=
  Settings.load_of_loadedFrom {
    stage := Settings.readStage_of_unset rfl
    endpoint := by decide +kernel
    accessKeyId := by decide +kernel
    secretAccessKey := by decide +kernel
    region := by decide +kernel
    bucket := by decide +kernel
    storeTimeout := by decide +kernel
    publicBase := by decide +kernel
    apiKey := by decide +kernel
    port := by decide +kernel
    origins := by decide +kernel
    requestTimeout := by decide +kernel }

end Sample

end ImageIntake
