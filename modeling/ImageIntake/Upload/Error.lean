import ImageIntake.Store.Basic

namespace ImageIntake

inductive InvalidUpload where
  | empty
  | tooLarge
  | notAnImage
  deriving DecidableEq, Repr

def InvalidUpload.message : InvalidUpload → String
  | .empty => "Empty file"
  | .tooLarge => "File too large"
  | .notAnImage => "Invalid image"

inductive UploadError where
  | unauthorized
  | unsupportedType (declared : String)
  | declaredTooLarge (declared limit : Nat)
  | notFound
  | invalid (reason : InvalidUpload)
  | storage (cause : StoreError)
  deriving DecidableEq, Repr

def UploadError.message : UploadError → String
  | .unauthorized => "Unauthorized"
  | .unsupportedType declared => "Unsupported content_type: " ++ declared
  | .declaredTooLarge _ limit => "File too large (max " ++ toString limit ++ " bytes)"
  | .notFound => "Raw upload not found"
  | .invalid reason => reason.message
  | .storage cause => "Storage error: " ++ cause.message

end ImageIntake
