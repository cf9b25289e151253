import ImageIntake.Http.HeaderText
import ImageIntake.Settings.Stage
import ImageIntake.Text.Quoted
import ImageIntake.Time.Span

namespace ImageIntake

open Text

inductive Variable where
  | stage
  | endpoint
  | accessKeyId
  | secretAccessKey
  | region
  | bucket
  | storeTimeout
  | publicBase
  | apiKey
  | port
  | origins
  | requestTimeout
  deriving DecidableEq, Repr

namespace Variable

def name : Variable → String
  | .stage => "APP_ENV"
  | .endpoint => "R2_ENDPOINT"
  | .accessKeyId => "R2_ACCESS_KEY_ID"
  | .secretAccessKey => "R2_SECRET_ACCESS_KEY"
  | .region => "R2_REGION"
  | .bucket => "R2_BUCKET"
  | .storeTimeout => "STORE_TIMEOUT_SECS"
  | .publicBase => "R2_PUBLIC_BASE"
  | .apiKey => "API_KEY"
  | .port => "PORT"
  | .origins => "CORS_ALLOWED_ORIGINS"
  | .requestTimeout => "REQUEST_TIMEOUT_SECS"

end Variable

inductive Flaw where
  | unknownStage (stage : String)
  | badUrl (value cause : String)
  | wrongScheme (value : String)
  | notPositive (value : String)
  | developmentKey
  | badNumeral (value : String) (cause : NumeralError)
  | badOrigin (value : String)
  deriving DecidableEq, Repr

def Flaw.message : Flaw → String
  | .unknownStage stage => "unknown environment " ++ quote stage
  | .badUrl value cause => quote value ++ ": " ++ cause
  | .wrongScheme value => quote value ++ " must use an http or https scheme"
  | .notPositive value => quote value ++ " is not a positive number of seconds"
  | .developmentKey => "the development default key cannot be used in production"
  | .badNumeral value cause => quote value ++ ": " ++ cause.message
  | .badOrigin value => quote value ++ ": failed to parse header value"

inductive SettingsError where
  | missing (which : Variable)
  | invalid (which : Variable) (flaw : Flaw)
  deriving DecidableEq, Repr

namespace SettingsError

def message : SettingsError → String
  | .missing which => which.name ++ " environment variable is not set"
  | .invalid which flaw => "Invalid value for " ++ which.name ++ ": " ++ flaw.message

def about : SettingsError → Variable
  | .missing which => which
  | .invalid which _ => which

end SettingsError

structure StoreSettings where
  endpoint : String
  accessKeyId : String
  secretAccessKey : String
  region : String
  bucket : String
  timeout : Span
  deriving DecidableEq, Repr

structure Settings where
  stage : Stage
  store : StoreSettings
  publicBase : String
  apiKey : String
  port : Nat
  origins : List String
  requestTimeout : Span
  deriving DecidableEq, Repr

/-- The scheme of the URL that a text is, or why the text is none. -/
abbrev UrlReader := String → Except String String

abbrev Lookup := Variable → Option String

namespace Lookup

def value? (lookup : Lookup) (which : Variable) : Option String :=
  match lookup which with
  | none => none
  | some text => if trim text = "" then none else some (trim text)

def required (lookup : Lookup) (which : Variable) : Except SettingsError String :=
  match lookup.value? which with
  | some text => .ok text
  | none => .error (.missing which)

end Lookup

namespace Settings

def developmentKey : String := "dev-123"

def defaultRegion : String := "auto"

def defaultPort : Nat := 8000

def defaultOrigins : String := "http://localhost:3000"

def defaultSeconds : Nat := 30

def readStageValue (value : Option String) : Except SettingsError Stage :=
  match Stage.parse value with
  | .ok stage => .ok stage
  | .error stage => .error (.invalid .stage (.unknownStage stage))

def readStage (lookup : Lookup) : Except SettingsError Stage :=
  readStageValue (lookup.value? .stage)

def readEndpoint (readUrl : UrlReader) (lookup : Lookup) : Except SettingsError String :=
  match lookup.required .endpoint with
  | .error e => .error e
  | .ok text =>
      match readUrl text with
      | .error cause => .error (.invalid .endpoint (.badUrl text cause))
      | .ok scheme =>
          if scheme = "http" ∨ scheme = "https" then .ok text
          else .error (.invalid .endpoint (.wrongScheme text))

def readSeconds (lookup : Lookup) (which : Variable) : Except SettingsError Span :=
  match lookup.value? which with
  | none => .ok (.ofSeconds defaultSeconds)
  | some text =>
      match readNumeral largest64 text with
      | .ok n =>
          if 0 < n then .ok (.ofSeconds n) else .error (.invalid which (.notPositive text))
      | .error _ => .error (.invalid which (.notPositive text))

def readPublicBase (lookup : Lookup) : Except SettingsError String :=
  match lookup.required .publicBase with
  | .error e => .error e
  | .ok text =>
      if trimEndOf '/' text = "" then .error (.missing .publicBase)
      else .ok (trimEndOf '/' text)

def readApiKey (lookup : Lookup) (stage : Stage) : Except SettingsError String :=
  match lookup.value? .apiKey with
  | some key =>
      if key = developmentKey ∧ stage.allowsDefaultKey = false then
        .error (.invalid .apiKey .developmentKey)
      else .ok key
  | none => if stage.allowsDefaultKey then .ok developmentKey else .error (.missing .apiKey)

def readPort (lookup : Lookup) : Except SettingsError Nat :=
  match lookup.value? .port with
  | none => .ok defaultPort
  | some text =>
      match readNumeral largest16 text with
      | .ok n => .ok n
      | .error cause => .error (.invalid .port (.badNumeral text cause))

def segments (list : String) : List String :=
  ((list.toList.splitOn ',').map fun segment => trim (String.ofList segment)).filter (· != "")

def checkOrigin (origin : String) : Except SettingsError String :=
  if Http.isHeaderText origin then .ok origin
  else .error (.invalid .origins (.badOrigin origin))

def readOrigins (lookup : Lookup) : Except SettingsError (List String) :=
  (segments ((lookup.value? .origins).getD defaultOrigins)).mapM checkOrigin

def load (readUrl : UrlReader) (lookup : Lookup) : Except SettingsError Settings := do
  let stage ← readStage lookup
  let endpoint ← readEndpoint readUrl lookup
  let accessKeyId ← lookup.required .accessKeyId
  let secretAccessKey ← lookup.required .secretAccessKey
  let region := (lookup.value? .region).getD defaultRegion
  let bucket ← lookup.required .bucket
  let timeout ← readSeconds lookup .storeTimeout
  let publicBase ← readPublicBase lookup
  let apiKey ← readApiKey lookup stage
  let port ← readPort lookup
  let origins ← readOrigins lookup
  let requestTimeout ← readSeconds lookup .requestTimeout
  return {
    stage
    store := { endpoint, accessKeyId, secretAccessKey, region, bucket, timeout }
    publicBase, apiKey, port, origins, requestTimeout }

end Settings

end ImageIntake
