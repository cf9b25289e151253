import ImageIntake.Http.Message
import ImageIntake.Upload.Error

namespace ImageIntake.Http

structure ApiError where
  status : Nat
  code : String
  message : String
  allowRetry : Bool
  deriving DecidableEq, Repr

namespace ApiError

def validation (message : String) : ApiError := ⟨400, "validation_error", message, false⟩

def ofField (field reason : String) : ApiError :=
  validation (if field = "" then reason else field ++ ": " ++ reason)

def missingContentType : ApiError :=
  ⟨400, "invalid_content_type", "Missing Content-Type: application/json header", false⟩

def malformedJson : ApiError := ⟨400, "invalid_json", "Invalid JSON payload", false⟩

def ofUpload (e : UploadError) : ApiError :=
  match e with
  | .unauthorized => ⟨401, "unauthorized", e.message, false⟩
  | .unsupportedType _ => ⟨400, "unsupported_media_type", e.message, false⟩
  | .declaredTooLarge _ _ => ⟨400, "payload_too_large", e.message, false⟩
  | .notFound => ⟨404, "not_found", e.message, false⟩
  | .invalid reason => ⟨400, "invalid_input", reason.message, false⟩
  | .storage _ => ⟨500, "storage_error", "Storage error", true⟩

def document (e : ApiError) : Json :=
  .record [
    ("allowRetry", .bool e.allowRetry),
    ("error", .record [("code", .string e.code), ("message", .string e.message)])]

def reply (e : ApiError) : Reply := .ofBody e.status (.json e.document)

end ApiError

end ImageIntake.Http
