import ImageIntake.Store.Program
import ImageIntake.Upload.Error
import ImageIntake.Upload.Key
import ImageIntake.Upload.Policy

namespace ImageIntake

structure Declaration where
  filename : String
  contentType : String
  bytes : Nat
  deriving DecidableEq, Repr

structure Grant where
  url : String
  rawKey : String
  type : ImageType
  deriving DecidableEq, Repr

def authorize (lifetime : Span) (token : Token) (d : Declaration) :
    Program (Except UploadError Grant) :=
  match ImageType.parse? d.contentType with
  | none => .done (.error (.unsupportedType (ImageType.plainDeclaration d.contentType)))
  | some type =>
      if Policy.maxUploadBytes < d.bytes then
        .done (.error (.declaredTooLarge d.bytes Policy.maxUploadBytes))
      else
        .presign (rawKey type token) type.mime lifetime fun
          | .error cause => .done (.error (.storage cause))
          | .ok url => .done (.ok { url, rawKey := rawKey type token, type })

end ImageIntake
