namespace ImageIntake

structure PutOptions where
  contentType : String
  cacheControl : Option String := none
  deriving DecidableEq, Repr

structure StoredObject where
  body : ByteArray
  options : PutOptions

structure Write where
  key : String
  body : ByteArray
  options : PutOptions

namespace Write

def object (w : Write) : StoredObject := ⟨w.body, w.options⟩

end Write

inductive StoreError where
  | notFound (key : String)
  | tooLarge (key : String) (limit : Nat)
  | service (detail : String)
  | serverFault (detail : String)
  | transport (detail : String)
  | configuration (detail : String)
  deriving DecidableEq, Repr

def StoreError.message : StoreError → String
  | .notFound key => "Object not found: " ++ key
  | .tooLarge key limit => "Object " ++ key ++ " exceeds " ++ toString limit ++ " bytes"
  | .service detail => "S3 service error: " ++ detail
  | .serverFault detail => "Upstream service error: " ++ detail
  | .transport detail => "AWS SDK error: " ++ detail
  | .configuration detail => "Configuration error: " ++ detail

end ImageIntake
