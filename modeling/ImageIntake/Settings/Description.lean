import ImageIntake.Settings.Basic
import ImageIntake.Text.Percent

namespace ImageIntake

open Text

def covered : String := quote "<redacted>"

def describeFields (name : String) (fields : List (String × String)) : String :=
  name ++ " \x7b " ++ ", ".intercalate (fields.map fun (key, value) => key ++ ": " ++ value) ++
    " \x7d"

def Span.describe (s : Span) : String := toString s.seconds ++ "s"

def describeHeaderByte (b : UInt8) : List Char :=
  if b == 34 then ['\\', '"']
  else if Http.isVisibleByte b then [Char.ofNat b.toNat]
  else ['\\', 'x'] ++ hexDigits b.toNat

def describeHeader (s : String) : String :=
  String.ofList ('"' :: (s.toUTF8.toList.flatMap describeHeaderByte ++ ['"']))

def StoreSettings.describe (s : StoreSettings) : String :=
  describeFields "StoreConfig" [
    ("endpoint_url", quote s.endpoint),
    ("access_key_id", quote s.accessKeyId),
    ("secret_access_key", covered),
    ("region", quote s.region),
    ("bucket", quote s.bucket),
    ("operation_timeout", s.timeout.describe)]

def Settings.describe (s : Settings) : String :=
  describeFields "AppConfig" [
    ("environment", s.stage.title),
    ("store", s.store.describe),
    ("public_base_url", quote s.publicBase),
    ("api_key", covered),
    ("port", toString s.port),
    ("cors_allowed_origins", "[" ++ ", ".intercalate (s.origins.map describeHeader) ++ "]"),
    ("request_timeout", s.requestTimeout.describe)]

end ImageIntake
