import ImageIntake.Http.Guard
import ImageIntake.Proofs.Settings.Dependence
import ImageIntake.Settings.Description

namespace ImageIntake

open Text

structure Lookup.HoldsSecrets (lookup : Lookup) : Prop where
  secretAccessKey : ∃ text, lookup .secretAccessKey = some text ∧ trim text ≠ ""
  apiKey : ∃ text, lookup .apiKey = some text ∧ trim text ≠ "" ∧ trim text ≠ "dev-123"

namespace Settings

def printed (readUrl : UrlReader) (lookup : Lookup) : Except String String :=
  ((load readUrl lookup).map Settings.describe).mapError SettingsError.message

def withSecrets (secretAccessKey apiKey : String) (s : Settings) : Settings :=
  { s with store := { s.store with secretAccessKey }, apiKey }

theorem describe_withSecrets (secretAccessKey apiKey : String) (s : Settings) :
    (s.withSecrets secretAccessKey apiKey).describe = s.describe := rfl

theorem ok_bind {ε α β : Type} (a : α) (f : α → Except ε β) : (Except.ok a >>= f) = f a := rfl

variable {readUrl : UrlReader} {lookup lookup' : Lookup}

theorem printed_of_ok {s : Settings} (h : load readUrl lookup = .ok s) :
    printed readUrl lookup = .ok s.describe := by
  rw [printed, h]
  rfl

theorem printed_of_error {e : SettingsError} (h : load readUrl lookup = .error e) :
    printed readUrl lookup = .error e.message := by
  rw [printed, h]
  rfl

theorem load_eq_map_withSecrets (readUrl : UrlReader) {secret secret' key key' : String}
    (hsame : ∀ which, which ≠ .secretAccessKey → which ≠ .apiKey → lookup which = lookup' which)
    (hsecret : lookup.value? .secretAccessKey = some secret)
    (hsecret' : lookup'.value? .secretAccessKey = some secret')
    (hkey : lookup.value? .apiKey = some key) (hkey' : lookup'.value? .apiKey = some key')
    (hne : key ≠ developmentKey) (hne' : key' ≠ developmentKey) :
    load readUrl lookup' = withSecrets secret' key' <$> load readUrl lookup := by
  simp only [load, Lookup.required_of_value? hsecret, Lookup.required_of_value? hsecret',
    readApiKey_of_value? hkey hne, readApiKey_of_value? hkey' hne', ok_bind, map_bind, map_pure,
    ← readStage_congr (hsame .stage (by decide) (by decide)),
    ← readEndpoint_congr (hsame .endpoint (by decide) (by decide)),
    ← Lookup.required_congr (hsame .accessKeyId (by decide) (by decide)),
    ← Lookup.value?_congr (hsame .region (by decide) (by decide)),
    ← Lookup.required_congr (hsame .bucket (by decide) (by decide)),
    ← readSeconds_congr (hsame .storeTimeout (by decide) (by decide)),
    ← readPublicBase_congr (hsame .publicBase (by decide) (by decide)),
    ← readPort_congr (hsame .port (by decide) (by decide)),
    ← readOrigins_congr (hsame .origins (by decide) (by decide)),
    ← readSeconds_congr (hsame .requestTimeout (by decide) (by decide))]
  rfl

theorem secrets_are_not_printed (readUrl : UrlReader)
    (hsame : ∀ which, which ≠ .secretAccessKey → which ≠ .apiKey → lookup which = lookup' which)
    (h : lookup.HoldsSecrets) (h' : lookup'.HoldsSecrets) :
    printed readUrl lookup = printed readUrl lookup' ∧ ∀ g g' : Http.Guard, g.describe = g'.describe := by
  obtain ⟨secret, hsecret, hset⟩ := h.secretAccessKey
  obtain ⟨secret', hsecret', hset'⟩ := h'.secretAccessKey
  obtain ⟨key, hkey, hfilled, hne⟩ := h.apiKey
  obtain ⟨key', hkey', hfilled', hne'⟩ := h'.apiKey
  have hload := load_eq_map_withSecrets readUrl hsame
    (Lookup.value?_eq_some_iff.mpr ⟨secret, hsecret, hset, rfl⟩)
    (Lookup.value?_eq_some_iff.mpr ⟨secret', hsecret', hset', rfl⟩)
    (Lookup.value?_eq_some_iff.mpr ⟨key, hkey, hfilled, rfl⟩)
    (Lookup.value?_eq_some_iff.mpr ⟨key', hkey', hfilled', rfl⟩) hne hne'
  refine ⟨?_, fun _ _ => rfl⟩
  cases hs : load readUrl lookup with
  | error e =>
      rw [hs] at hload
      rw [printed_of_error hs, printed_of_error hload]
  | ok s =>
      rw [hs] at hload
      rw [printed_of_ok hs, printed_of_ok hload, describe_withSecrets]

end Settings

namespace Sample

def rekeyed : Lookup
  | .secretAccessKey => some "\u2003\"secret\"\n"
  | .apiKey => some "DEV-123"
  | which => lookup which

theorem lookup_holdsSecrets : lookup.HoldsSecrets where
  secretAccessKey := ⟨_, rfl, by decide +kernel⟩
  apiKey := ⟨_, rfl, by decide +kernel, by decide +kernel⟩

theorem rekeyed_holdsSecrets : rekeyed.HoldsSecrets where
  secretAccessKey := ⟨_, rfl, by decide +kernel⟩
  apiKey := ⟨_, rfl, by decide +kernel, by decide +kernel⟩

end Sample

namespace Settings

theorem secrets_are_not_printed_rekeyed :
    (∀ which, which ≠ .secretAccessKey → which ≠ .apiKey →
        Sample.lookup which = Sample.rekeyed which) ∧
      Sample.lookup.HoldsSecrets ∧ Sample.rekeyed.HoldsSecrets ∧
      printed Sample.readUrl Sample.rekeyed = .ok Sample.loaded.describe := by
  have hsame : ∀ which, which ≠ .secretAccessKey → which ≠ .apiKey →
      Sample.lookup which = Sample.rekeyed which := by
    intro which hsecret hkey
    cases which with
    | secretAccessKey => exact absurd rfl hsecret
    | apiKey => exact absurd rfl hkey
    | _ => rfl
  have hprinted := (secrets_are_not_printed Sample.readUrl hsame Sample.lookup_holdsSecrets
    Sample.rekeyed_holdsSecrets).1
  exact ⟨hsame, Sample.lookup_holdsSecrets, Sample.rekeyed_holdsSecrets,
    hprinted.symm.trans (printed_of_ok Sample.load_lookup)⟩

end Settings

end ImageIntake
