import ImageIntake.Proofs.Settings.Load

namespace ImageIntake

variable {readUrl : UrlReader} {lookup lookup' : Lookup} {which : Variable}

namespace Lookup

theorem value?_congr (h : lookup which = lookup' which) :
    lookup.value? which = lookup'.value? which := by
  rw [value?, value?, h]

theorem required_congr (h : lookup which = lookup' which) :
    lookup.required which = lookup'.required which := by
  rw [required, required, value?_congr h]

theorem required_of_value? {text : String} (h : lookup.value? which = some text) :
    lookup.required which = .ok text := by
  rw [required, h]

end Lookup

namespace Settings

theorem readStage_congr (h : lookup .stage = lookup' .stage) :
    readStage lookup = readStage lookup' := by
  rw [readStage, readStage, Lookup.value?_congr h]

theorem readEndpoint_congr (h : lookup .endpoint = lookup' .endpoint) :
    readEndpoint readUrl lookup = readEndpoint readUrl lookup' := by
  rw [readEndpoint, readEndpoint, Lookup.required_congr h]

theorem readSeconds_congr (h : lookup which = lookup' which) :
    readSeconds lookup which = readSeconds lookup' which := by
  rw [readSeconds, readSeconds, Lookup.value?_congr h]

theorem readPublicBase_congr (h : lookup .publicBase = lookup' .publicBase) :
    readPublicBase lookup = readPublicBase lookup' := by
  rw [readPublicBase, readPublicBase, Lookup.required_congr h]

theorem readPort_congr (h : lookup .port = lookup' .port) : readPort lookup = readPort lookup' := by
  rw [readPort, readPort, Lookup.value?_congr h]

theorem readOrigins_congr (h : lookup .origins = lookup' .origins) :
    readOrigins lookup = readOrigins lookup' := by
  rw [readOrigins, readOrigins, Lookup.value?_congr h]

theorem readApiKey_of_value? {key : String} (h : lookup.value? .apiKey = some key)
    (hkey : key ≠ developmentKey) (stage : Stage) : readApiKey lookup stage = .ok key := by
  simp only [readApiKey, h, hkey, false_and, if_false]

theorem load_of_readStage_error {e : SettingsError} (h : readStage lookup = .error e) :
    load readUrl lookup = .error e := by
  simp only [load, h]
  rfl

end Settings

end ImageIntake
