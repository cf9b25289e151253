import ImageIntake.Picture.Rendition
import ImageIntake.Store.Program
import ImageIntake.Time.Instant
import ImageIntake.Upload.Error
import ImageIntake.Upload.Key
import ImageIntake.Upload.Policy

namespace ImageIntake

structure Publication where
  fullUrl : String
  thumbnailUrl : String
  width : Nat
  height : Nat
  bytes : Nat
  createdAt : Instant
  deriving DecidableEq, Repr

def publicationStatus : String := "OK"

structure Publisher where
  publicBase : String
  render : ByteArray → Option RenditionPair

namespace Publisher

def publicUrl (p : Publisher) (key : String) : String :=
  p.publicBase ++ "/" ++ key

def options : PutOptions := ⟨outputMime, some Policy.cacheControl⟩

def publication (p : Publisher) (keys : PublishedKeys) (full : Rendition) (now : Instant) :
    Publication where
  fullUrl := p.publicUrl keys.full
  thumbnailUrl := p.publicUrl keys.thumbnail
  width := full.width
  height := full.height
  bytes := full.data.size
  createdAt := now

def publish (p : Publisher) (keys : PublishedKeys) (rawKey : String) (now : Instant)
    (pair : RenditionPair) : Program (Except UploadError Publication) :=
  .putBoth ⟨keys.full, pair.full.data, options⟩
      ⟨keys.thumbnail, pair.thumbnail.data, options⟩ fun
    | .error cause => .done (.error (.storage cause))
    | .ok () => .delete rawKey fun _ => .done (.ok (p.publication keys pair.full now))

def publishUpload (p : Publisher) (keys : PublishedKeys) (rawKey : String) (now : Instant)
    (raw : ByteArray) : Program (Except UploadError Publication) :=
  if raw.size = 0 then .done (.error (.invalid .empty))
  else if Policy.maxUploadBytes < raw.size then .done (.error (.invalid .tooLarge))
  else match p.render raw with
    | none => .done (.error (.invalid .notAnImage))
    | some pair => p.publish keys rawKey now pair

def commit (p : Publisher) (token : Token) (now : Instant) (post rawKey : String) :
    Program (Except UploadError Publication) :=
  if isRawKey rawKey then
    .get rawKey Policy.maxUploadBytes fun
      | .error (.tooLarge _ _) => .done (.error (.invalid .tooLarge))
      | .error _ => .done (.error .notFound)
      | .ok raw => p.publishUpload (.of post token.text) rawKey now raw
  else .done (.error .notFound)

end Publisher

end ImageIntake
